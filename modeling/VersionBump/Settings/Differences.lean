import VersionBump.KeyDiff
import VersionBump.Registry
import VersionBump.Settings.Config
import VersionBump.Severity.Table

/-!
# Differences of admin settings

The settings of modules are compared by module. Settings that are there on one side only are one
difference; otherwise their nodes are compared by path. A field that is shown in fewer scopes counts
as reduced even if it gained others.
-/

namespace VersionBump.Settings

/-- The operation for a change of settings. -/
def op (t : Severity.Table) (kind : SettingsChange) (target : String) (location : Path) :
    Operation :=
  t.operation .settings (.settings kind) target location

/-- The nodes by path. Of two nodes with one path the later stays. -/
def Config.byPath (c : Config) : KeyMap String Node :=
  KeyMap.ofList (c.nodes.map fun n => (n.path, n))

/-- The change that a new node is. -/
def addedChange (n : Node) : SettingsChange :=
  match n.kind with
  | .sectionNode => .sectionAdded
  | .groupNode => .groupAdded
  | .fieldNode => .fieldAdded

/-- The change that a lost node is. -/
def removedChange (n : Node) : SettingsChange :=
  match n.kind with
  | .sectionNode => .sectionRemoved
  | .groupNode => .groupRemoved
  | .fieldNode => .fieldRemoved

/-- The type of a field that states none. -/
def textType : String := "text"

/-- Whether some scope of the first list is missing in the second. -/
def losesScope (before after : List Bool) : Bool := (before.zip after).any fun s => s.1 && !s.2

/-- The change of the scopes of a field. -/
def scopeChange? (before after : List Bool) : Option SettingsChange :=
  if losesScope before after then some .fieldScopeReduced
  else if losesScope after before then some .fieldScopeExtended
  else none

/-- The differences of two nodes under one path. Only fields can differ. -/
def compareNodes (t : Severity.Table) (path : String) (location : Path) (before after : Node) :
    List Operation :=
  if after.kind = .fieldNode then
    (if before.type = after.type then []
      else [t.valueChange .settings (.settings .fieldTypeChanged) path location
        (before.type.getD textType) (after.type.getD textType)]) ++
    ((scopeChange? before.scopes after.scopes).map (op t · path location)).toList
  else []

/-- The differences of two settings of one module. -/
def compareConfigs (t : Severity.Table) (location : Path) (before after : Config) :
    List Operation :=
  (KeyDiff.between before.byPath after.byPath).collect
    (fun path n => [op t (addedChange n) path location])
    (fun path n => [op t (removedChange n) path location])
    (fun path old new => compareNodes t path location old new)

/-- The differences of the settings of two registries. -/
def differences (t : Severity.Table) (before after : Registry Config) : List Operation :=
  (KeyDiff.between (before.inContext .settings) (after.inContext .settings)).collect
    (fun module c => [op t .fileAdded module c.location])
    (fun module c => [op t .fileRemoved module c.location])
    (fun _ old new => compareConfigs t new.location old.value new.value)

end VersionBump.Settings
