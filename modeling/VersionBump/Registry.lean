import VersionBump.Context
import VersionBump.KeyMap.Basic
import VersionBump.Path

/-!
# Registries

The declarations of one family in one snapshot, by context and key, each with the file it was read
from. Registering a key again replaces both.

* `Registry.insert`, `Registry.get?` and `Registry.location?` work on single entries.
* `Registry.inContext` is the map of one context.
* `Registry.filterMap` keeps the files of the entries that it keeps.
-/

namespace VersionBump

/-- A value with the file it comes from. -/
structure Located (α : Type) where
  value : α
  location : Path
  deriving DecidableEq, Repr, Inhabited

namespace Registry

/-- The key of an entry. -/
structure Key where
  context : Context
  name : String
  deriving DecidableEq, Repr

namespace Key

instance : Ord Key := ⟨compareLex (compareOn context) (compareOn name)⟩

instance : Std.TransOrd Key :=
  inferInstanceAs (Std.TransCmp (compareLex (compareOn context) (compareOn name)))

instance : Std.LawfulEqOrd Key where
  compare_self := compareLex_eq_eq.mpr ⟨Std.ReflOrd.compare_self, Std.ReflOrd.compare_self⟩
  eq_of_compare {a b} h := by
    have h' := compareLex_eq_eq.mp h
    have hc : a.context = b.context := Std.LawfulEqOrd.eq_of_compare h'.1
    have hn : a.name = b.name := Std.LawfulEqOrd.eq_of_compare h'.2
    cases a; cases b; simp_all

/-- Within one context keys are ordered by name. -/
theorem compare_of_context_eq {a b : Key} (h : a.context = b.context) :
    compare a b = compare a.name b.name := by
  show compareLex (compareOn context) (compareOn name) a b = _
  simp [compareLex, compareOn, h, Std.ReflCmp.compare_self]

end Key

end Registry

/-- Located declarations by context and key. -/
structure Registry (α : Type) where
  entries : KeyMap Registry.Key (Located α) := ∅
  deriving DecidableEq

namespace Registry

variable {α β : Type}

/-- The registry without entries. -/
def empty : Registry α := ⟨∅⟩

instance : EmptyCollection (Registry α) := ⟨empty⟩
instance : Inhabited (Registry α) := ⟨empty⟩

/-- The registry with `value` under `key`. -/
def insert (r : Registry α) (context : Context) (key : String) (value : α) (location : Path) :
    Registry α :=
  ⟨r.entries.insert ⟨context, key⟩ ⟨value, location⟩⟩

/-- The value under `key` with its file. -/
def find? (r : Registry α) (context : Context) (key : String) : Option (Located α) :=
  r.entries.find? ⟨context, key⟩

/-- The value under `key`. -/
def get? (r : Registry α) (context : Context) (key : String) : Option α :=
  (r.find? context key).map (·.value)

/-- The file of the value under `key`. -/
def location? (r : Registry α) (context : Context) (key : String) : Option Path :=
  (r.find? context key).map (·.location)

/-- All entries, in the order of contexts and keys. -/
def toList (r : Registry α) : List (Key × Located α) := r.entries.toList

/-- All values, in the order of contexts and keys. -/
def values (r : Registry α) : List α := r.entries.values.map (·.value)

/-- The number of entries. -/
def size (r : Registry α) : Nat := r.entries.size

/-- The contexts that have entries, in order. -/
def contexts (r : Registry α) : List Context := (r.entries.keys.map (·.context)).eraseDups

/-- The entry as one of `context`, if it is one. -/
def entryIn? (context : Context) (e : Key × Located α) : Option (String × Located α) :=
  if e.1.context = context then some (e.1.name, e.2) else none

theorem sorted_inContext (r : Registry α) (context : Context) :
    SortedEntries (r.entries.entries.filterMap (entryIn? context)) := by
  refine List.Pairwise.filterMap _ (fun a b hab a' ha b' hb => ?_) r.entries.sorted
  simp only [entryIn?] at ha hb
  split at ha <;> split at hb <;> simp_all
  subst ha hb
  rw [← Key.compare_of_context_eq (by simp_all)]
  exact hab

/-- The entries of one context by key. -/
def inContext (r : Registry α) (context : Context) : KeyMap String (Located α) :=
  ⟨r.entries.entries.filterMap (entryIn? context), r.sorted_inContext context⟩

/-- The entries whose value `f` keeps, with the value that `f` gives. -/
def filterMap (f : α → Option β) (r : Registry α) : Registry β :=
  ⟨r.entries.filterMap fun _ e => (f e.value).map (⟨·, e.location⟩)⟩

end Registry

end VersionBump
