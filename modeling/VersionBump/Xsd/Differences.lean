import VersionBump.KeyDiff
import VersionBump.Registry
import VersionBump.Severity.Table
import VersionBump.Xsd.Grammar

/-!
# Differences of XML grammars

Schema files are compared by name. A file that is there on one side only is one difference;
otherwise its nodes are compared by path.
-/

namespace VersionBump.Xsd

/-- The operation for a change of a grammar. -/
def op (t : Severity.Table) (kind : XsdChange) (target : String) (location : Path) : Operation :=
  t.operation .xsd (.xsd kind) target location

/-- The nodes by path. Of two nodes with one path the later stays. -/
def Grammar.byPath (g : Grammar) : KeyMap String Node :=
  KeyMap.ofList (g.nodes.map fun n => (n.path, n))

/-- The change that a new node is. -/
def addedChange (n : Node) : XsdChange :=
  match n.kind, n.required with
  | .element, true => .requiredNodeAdded
  | .element, false => .optionalNodeAdded
  | .attribute, true => .requiredAttributeAdded
  | .attribute, false => .optionalAttributeAdded

/-- The change that a lost node is. -/
def removedChange (n : Node) : XsdChange :=
  match n.kind with
  | .element => .nodeRemoved
  | .attribute => .attributeRemoved

/-- The type of a node that states none. -/
def anyType : String := "anyType"

/-- The differences of two nodes under one path. -/
def compareNodes (t : Severity.Table) (target : String) (location : Path) (before after : Node) :
    List Operation :=
  (match before.required, after.required with
    | false, true => [op t .becameRequired target location]
    | true, false => [op t .becameOptional target location]
    | _, _ => []) ++
  (if before.type = after.type then []
    else [t.valueChange .xsd (.xsd .typeChanged) target location
      (before.type.getD anyType) (after.type.getD anyType)])

/-- The differences of two grammars of one file. -/
def compareGrammars (t : Severity.Table) (file : String) (location : Path)
    (before after : Grammar) : List Operation :=
  let target (path : String) := file ++ "#" ++ path
  (KeyDiff.between before.byPath after.byPath).collect
    (fun path n => [op t (addedChange n) (target path) location])
    (fun path n => [op t (removedChange n) (target path) location])
    (fun path old new => compareNodes t (target path) location old new)

/-- The differences of the grammars of two registries. -/
def differences (t : Severity.Table) (before after : Registry Grammar) : List Operation :=
  (KeyDiff.between (before.inContext .xsd) (after.inContext .xsd)).collect
    (fun file g => [op t .schemaFileAdded file g.location])
    (fun file g => [op t .schemaFileRemoved file g.location])
    (fun file old new => compareGrammars t file new.location old.value new.value)

end VersionBump.Xsd
