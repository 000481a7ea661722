import VersionBump.Change
import VersionBump.Context
import VersionBump.Level
import VersionBump.Path

/-!
# Operations

One detected and classified difference.

* `Operation.key` identifies the difference itself, whatever its level.
* `Operation.same` compares operations with their locations as paths.
-/

namespace VersionBump

/-- A classified difference. The target names the affected declaration, the location the file that
declares it. -/
structure Operation where
  kind : Change
  code : String
  level : Level
  context : Context
  target : String
  location : Path
  reason : String
  deriving DecidableEq, Repr, Inhabited

/-- What identifies a difference: where it is, what it concerns and which rule found it. -/
structure Operation.Key where
  location : List PathComponent
  target : String
  code : String
  deriving DecidableEq, Repr

/-- The identity of the difference. Locations count as paths. -/
def Operation.key (op : Operation) : Operation.Key :=
  ⟨op.location.components, op.target, op.code⟩

/-- Whether two operations agree in everything, locations being compared as paths. -/
def Operation.same (a b : Operation) : Bool :=
  a.location.same b.location && a = { b with location := a.location }

end VersionBump
