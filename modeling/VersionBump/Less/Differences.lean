import VersionBump.KeyDiff
import VersionBump.Less.Stylesheet
import VersionBump.Registry
import VersionBump.Severity.Table

/-!
# Differences of stylesheets

Stylesheets are compared by name. A file that is there on one side only is one difference; otherwise
its rules are compared by kind and name. Of common rules only variables can differ.
-/

namespace VersionBump.Less

/-- The operation for a change of a stylesheet. -/
def op (t : Severity.Table) (kind : LessChange) (target : String) (location : Path) : Operation :=
  t.operation .less (.less kind) target location

/-- The rules by kind and name. Of two rules with one key the later stays. -/
def Stylesheet.byKey (s : Stylesheet) : KeyMap String Rule :=
  KeyMap.ofList (s.rules.map fun r => (r.key, r))

/-- The change that a new rule is. -/
def addedChange (r : Rule) : LessChange :=
  match r.kind with
  | .variableRule => .variableAdded
  | .mixinRule => .mixinAdded
  | .importRule => .importAdded

/-- The change that a lost rule is. -/
def removedChange (r : Rule) : LessChange :=
  match r.kind with
  | .variableRule => .variableRemoved
  | .mixinRule => .mixinRemoved
  | .importRule => .importRemoved

/-- The difference of two rules under one key. -/
def compareRules (t : Severity.Table) (target : String) (location : Path) (before after : Rule) :
    List Operation :=
  if after.kind = .variableRule && before.value ≠ after.value then
    [t.valueChange .less (.less .variableValueChanged) target location
      (before.value.getD "") (after.value.getD "")]
  else []

/-- The differences of two stylesheets of one file. -/
def compareStylesheets (t : Severity.Table) (file : String) (location : Path)
    (before after : Stylesheet) : List Operation :=
  let target (r : Rule) := file ++ "#" ++ r.name
  (KeyDiff.between before.byKey after.byKey).collect
    (fun _ r => [op t (addedChange r) (target r) location])
    (fun _ r => [op t (removedChange r) (target r) location])
    (fun _ old new => compareRules t (target new) location old new)

/-- The differences of the stylesheets of two registries. -/
def differences (t : Severity.Table) (before after : Registry Stylesheet) : List Operation :=
  (KeyDiff.between (before.inContext .less) (after.inContext .less)).collect
    (fun file s => [op t .fileAdded file s.location])
    (fun file s => [op t .fileRemoved file s.location])
    (fun file old new => compareStylesheets t file new.location old.value new.value)

end VersionBump.Less
