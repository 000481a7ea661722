import VersionBump.Findings
import VersionBump.Registry

/-!
# Dividing declarations by publication

The same declarations are seen in four views: published and all, before and after. The keys of the
published views fall into five classes, each with its own rule: what is new or gone altogether, what
merely entered or left the published surface, and what was published on both sides and has to be
verified.

* `Views.divide` computes the classes with the declarations that the rules look at.
* `Division.apply` runs the rules, one class after the other, in key order.
-/

namespace VersionBump

/-- Declarations by key, each with its file. -/
abbrev View (α : Type) := KeyMap String (Located α)

/-- The four views of the same declarations. -/
structure Views (α : Type) where
  publishedBefore : View α
  publishedAfter : View α
  allBefore : View α
  allAfter : View α

/-- The views of a comparison that ignores publication: what is published is everything. -/
def Views.unpublished {α : Type} (before after : View α) : Views α := ⟨before, after, before, after⟩

/-- The classes of the published keys. A pair holds the declarations before and after. -/
structure Division (α : Type) where
  fullyAdded : List (String × Located α)
  fullyRemoved : List (String × Located α)
  membershipAdded : List (String × Located α × Located α)
  membershipRemoved : List (String × Located α × Located α)
  toVerify : List (String × Located α × Located α)

/-- The classes of the published keys of four views. -/
def Views.divide {α : Type} (v : Views α) : Division α where
  fullyAdded := v.publishedAfter.toList.filter fun e =>
    !v.publishedBefore.contains e.1 && !v.allBefore.contains e.1
  fullyRemoved := v.publishedBefore.toList.filter fun e =>
    !v.publishedAfter.contains e.1 && !v.allAfter.contains e.1
  membershipAdded := v.publishedAfter.toList.filterMap fun e =>
    if v.publishedBefore.contains e.1 then none
    else (v.allBefore.find? e.1).map fun before => (e.1, before, e.2)
  membershipRemoved := v.publishedBefore.toList.filterMap fun e =>
    if v.publishedAfter.contains e.1 then none
    else (v.allAfter.find? e.1).map fun after => (e.1, e.2, after)
  toVerify := v.publishedAfter.toList.filterMap fun e =>
    (v.publishedBefore.find? e.1).map fun before => (e.1, before, e.2)

/-- The rules of one family of declarations, one for each class. -/
structure DivisionRules (α ε : Type) where
  added : String → Located α → Except ε Findings
  removed : String → Located α → Except ε Findings
  membershipAdded : String → Located α → Located α → Except ε Findings
  membershipRemoved : String → Located α → Located α → Except ε Findings
  changed : String → Located α → Located α → Except ε Findings

/-- What the rules find in the classes, one class after the other. -/
def Division.apply {α ε : Type} (d : Division α) (rules : DivisionRules α ε) :
    Except ε Findings := do
  -- The order of the classes is the order of the findings, and of the complaints.
  let added ← Findings.collect (fun e => rules.added e.1 e.2) d.fullyAdded
  let removed ← Findings.collect (fun e => rules.removed e.1 e.2) d.fullyRemoved
  let entered ← Findings.collect (fun e => rules.membershipAdded e.1 e.2.1 e.2.2) d.membershipAdded
  let left ← Findings.collect (fun e => rules.membershipRemoved e.1 e.2.1 e.2.2) d.membershipRemoved
  let changed ← Findings.collect (fun e => rules.changed e.1 e.2.1 e.2.2) d.toVerify
  return added ++ removed ++ entered ++ left ++ changed

end VersionBump
