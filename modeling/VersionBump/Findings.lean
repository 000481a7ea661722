import VersionBump.Operation

/-!
# Findings

What a comparison of declarations finds, in the order in which it is found: structural changes on
one side, changes of what is published on the other. Findings of parts are put together by
appending.
-/

namespace VersionBump

/-- Changes, and declarations that enter or leave the published surface. -/
structure Findings where
  changes : List Operation := []
  membership : List Operation := []
  deriving DecidableEq, Repr, Inhabited

namespace Findings

/-- The findings of two comparisons, one after the other. -/
def append (a b : Findings) : Findings := ⟨a.changes ++ b.changes, a.membership ++ b.membership⟩

instance : Append Findings := ⟨append⟩

/-- Findings without changes of the published surface. -/
def ofChanges (ops : List Operation) : Findings := { changes := ops }

/-- A single change of the published surface. -/
def ofMembership (op : Operation) : Findings := { membership := [op] }

/-- The findings of all elements of a list, in order, unless one of them fails. -/
def collect {α ε : Type} (f : α → Except ε Findings) : List α → Except ε Findings
  | [] => .ok {}
  | a :: rest => do
    let first ← f a
    let others ← collect f rest
    return first ++ others

end Findings

end VersionBump
