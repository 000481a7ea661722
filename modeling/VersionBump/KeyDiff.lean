import VersionBump.KeyMap.Basic

/-!
# Differences of keyed maps

The keys of two maps fall into three classes: those of the later map only, those of the earlier map
only, and those of both. Each class carries the values that belong to its keys, in key order.

* `KeyDiff.between` computes the classes.
* `KeyDiff.collect` turns them into one list: what is added, then removed, then common.
-/

namespace VersionBump

/-- The classes of the keys of two maps, with the values under them. -/
structure KeyDiff (κ β α : Type) where
  added : List (κ × α)
  removed : List (κ × β)
  common : List (κ × β × α)
  deriving Repr

namespace KeyDiff

variable {κ β α γ : Type}

/-- The classes of the keys of an earlier and a later map. -/
def between [Ord κ] (before : KeyMap κ β) (after : KeyMap κ α) : KeyDiff κ β α where
  added := after.toList.filter fun e => !before.contains e.1
  removed := before.toList.filter fun e => !after.contains e.1
  common := after.toList.filterMap fun e => (before.find? e.1).map fun b => (e.1, b, e.2)

/-- Whether both maps have the same keys. -/
def isEmpty (d : KeyDiff κ β α) : Bool := d.added.isEmpty && d.removed.isEmpty

/-- What the rules make of the classes, one after the other. -/
def collect (d : KeyDiff κ β α) (added : κ → α → List γ) (removed : κ → β → List γ)
    (common : κ → β → α → List γ) : List γ :=
  d.added.flatMap (fun e => added e.1 e.2) ++
    (d.removed.flatMap (fun e => removed e.1 e.2) ++
      d.common.flatMap fun e => common e.1 e.2.1 e.2.2)

end KeyDiff

end VersionBump
