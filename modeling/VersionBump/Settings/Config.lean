/-!
# Admin settings

The settings of a module: sections hold groups and groups hold fields. For comparison the tree is
flattened into nodes that are known by their path.

* `Config.nodes` lists a section, then for each of its groups the fields and the group itself.
-/

namespace VersionBump.Settings

/-- A field and the scopes in which it is shown. -/
structure Field where
  id : String
  type : Option String := none
  showInDefault : Bool := false
  showInWebsite : Bool := false
  showInStore : Bool := false
  deriving DecidableEq, Repr, Inhabited

/-- A group of fields. -/
structure Group where
  id : String
  fields : List Field := []
  deriving DecidableEq, Repr, Inhabited

/-- A section of groups. -/
structure Section where
  id : String
  groups : List Group := []
  deriving DecidableEq, Repr, Inhabited

/-- The settings of a module. -/
structure Config where
  module : String
  sections : List Section := []
  deriving DecidableEq, Repr, Inhabited

/-- The kind of a node of the flattened settings. -/
inductive NodeKind where
  | sectionNode
  | groupNode
  | fieldNode
  deriving DecidableEq, Repr, Inhabited

/-- The word for a kind. -/
def NodeKind.name : NodeKind → String
  | .sectionNode => "section"
  | .groupNode => "group"
  | .fieldNode => "field"

/-- A section, group or field under its path. -/
structure Node where
  path : String
  kind : NodeKind
  type : Option String := none
  scopes : List Bool := [false, false, false]
  deriving DecidableEq, Repr, Inhabited

/-- The node of a field in the group at `groupPath`. -/
def Field.node (groupPath : String) (f : Field) : Node :=
  ⟨groupPath ++ "/" ++ f.id, .fieldNode, f.type, [f.showInDefault, f.showInWebsite, f.showInStore]⟩

/-- The nodes of a group: its fields, then the group. -/
def Group.nodes (sectionPath : String) (g : Group) : List Node :=
  let path := sectionPath ++ "/" ++ g.id
  g.fields.map (·.node path) ++ [{ path, kind := .groupNode }]

/-- The nodes of a section: the section, then those of its groups. -/
def Section.nodes (s : Section) : List Node :=
  { path := s.id, kind := .sectionNode } :: s.groups.flatMap (·.nodes s.id)

/-- The nodes of the settings of a module. -/
def Config.nodes (c : Config) : List Node := c.sections.flatMap (·.nodes)

end VersionBump.Settings
