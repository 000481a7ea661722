/-!
# Virtual types

Dependency-injection files declare virtual types for a scope. A virtual type is registered together
with the scope and the module of its file.
-/

namespace VersionBump.Di

/-- The scope that is valid everywhere. -/
def globalScope : String := "global"

/-- A virtual type as a file declares it. -/
structure Declaration where
  name : String
  type : String
  shared : Bool := true
  deriving DecidableEq, Repr, Inhabited

/-- A dependency-injection file. -/
structure Config where
  module : String
  scope : String := globalScope
  virtualTypes : List Declaration := []
  deriving DecidableEq, Repr, Inhabited

/-- A virtual type with the scope and the module of its file. -/
structure VirtualType where
  name : String
  type : String
  shared : Bool
  scope : String
  module : String
  deriving DecidableEq, Repr, Inhabited

/-- Whether a virtual type is valid everywhere. -/
def VirtualType.isGlobal (v : VirtualType) : Bool := v.scope == globalScope

/-- The virtual types of a file. -/
def Config.types (c : Config) : List VirtualType :=
  c.virtualTypes.map fun d => ⟨d.name, d.type, d.shared, c.scope, c.module⟩

end VersionBump.Di
