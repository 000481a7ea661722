/-!
# XML grammars

The elements and attributes that a schema file allows, by their path from the root.
-/

namespace VersionBump.Xsd

/-- The kind of a grammar node. -/
inductive NodeKind where
  | element
  | attribute
  deriving DecidableEq, Repr, Inhabited

/-- The keyword of a kind. -/
def NodeKind.name : NodeKind → String
  | .element => "element"
  | .attribute => "attribute"

/-- An element or attribute. -/
structure Node where
  path : String
  kind : NodeKind
  required : Bool := false
  type : Option String := none
  deriving DecidableEq, Repr, Inhabited

/-- A schema file. -/
structure Grammar where
  nodes : List Node := []
  deriving DecidableEq, Repr, Inhabited

end VersionBump.Xsd
