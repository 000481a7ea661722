import VersionBump.Database.Schema
import VersionBump.KeyDiff
import VersionBump.Registry
import VersionBump.Severity.Table

/-!
# Differences of database schemas

Any module may extend a table that another one declares, so the tables are flattened over all
modules before they are compared. Of two modules that state the same column, index, key or
attribute, the one later in module order counts, and every part remembers the file that stated it.

* `flatten` is the flattened view of a registry.
* `differences` compares two registries through their flattened views.
-/

namespace VersionBump.Database

/-- A table as all modules together declare it. The location is the file that mentions it first. -/
structure FlatTable where
  location : Path
  resource : Option String := none
  engine : Option String := none
  comment : Option String := none
  columns : KeyMap String (Located Column) := ∅
  indexes : KeyMap String (Located Index) := ∅
  constraints : KeyMap String (Located Constraint) := ∅
  deriving DecidableEq

namespace FlatTable

/-- The table with what a module states about it. -/
def extend (t : FlatTable) (location : Path) (stated : Database.Table) : FlatTable :=
  { location := t.location
    resource := stated.resource.orElse fun _ => t.resource
    engine := stated.engine.orElse fun _ => t.engine
    comment := stated.comment.orElse fun _ => t.comment
    columns := stated.columns.foldl (fun m c => m.insert c.name ⟨c, location⟩) t.columns
    indexes := stated.indexes.foldl (fun m i => m.insert i.referenceId ⟨i, location⟩) t.indexes
    constraints :=
      stated.constraints.foldl (fun m c => m.insert c.referenceId ⟨c, location⟩) t.constraints }

end FlatTable

/-- The tables with those of one module added. -/
def flattenModule (tables : KeyMap String FlatTable) (schema : Located ModuleSchema) :
    KeyMap String FlatTable :=
  schema.value.tables.foldl
    (fun tables t => tables.update t.name fun known =>
      (known.getD { location := schema.location }).extend schema.location t)
    tables

/-- The tables of all modules of a registry, by name. -/
def flatten (r : Registry ModuleSchema) : KeyMap String FlatTable :=
  (r.toList.map (·.2)).foldl flattenModule ∅

/-- The operation for a change in the database. -/
def op (t : Severity.Table) (kind : DatabaseChange) (target : String) (location : Path) :
    Operation :=
  t.operation .database (.database kind) target location

/-- The operation for a change of a value in the database. -/
def valueOp (t : Severity.Table) (kind : DatabaseChange) (target : String) (location : Path)
    (before after : String) : Operation :=
  t.valueChange .database (.database kind) target location before after

/-- The differences of two columns under one name. -/
def compareColumns (t : Severity.Table) (target : String) (location : Path)
    (before after : Column) : List Operation :=
  (if Text.equalsIgnoreAsciiCase before.type after.type then []
    else [valueOp t .columnTypeChange target location before.type after.type]) ++
  (match before.nullable, after.nullable with
    | true, false => [op t .columnBecameNotNull target location]
    | false, true => [op t .columnBecameNullable target location]
    | _, _ => []) ++
  (if before.default = after.default then []
    else [valueOp t .columnDefaultChange target location
      (before.default.getD "NULL") (after.default.getD "NULL")]) ++
  (if before.sameDefinition after then [] else [op t .columnDefinitionChange target location])

/-- The difference of two indexes under one name. -/
def compareIndexes (t : Severity.Table) (target : String) (location : Path) (before after : Index) :
    List Operation :=
  if before.columns = after.columns && Text.equalsIgnoreAsciiCase before.type after.type then []
  else [valueOp t .indexChange target location before.summary after.summary]

/-- The change that a new key is. -/
def keyAdded : Constraint → DatabaseChange
  | .primary .. => .primaryKeyAdd
  | .unique .. => .uniqueKeyAdd
  | .foreign .. => .foreignKeyAdd

/-- The change that a lost key is. -/
def keyRemoved : Constraint → DatabaseChange
  | .primary .. => .primaryKeyRemove
  | .unique .. => .uniqueKeyRemove
  | .foreign .. => .foreignKeyRemove

/-- The change that a different key is. -/
def keyChanged : Constraint → DatabaseChange
  | .primary .. => .primaryKeyChange
  | .unique .. => .uniqueKeyChange
  | .foreign .. => .foreignKeyChange

/-- The differences of one family of parts of a table. -/
def compareParts {α : Type} (t : Severity.Table) (table : String)
    (added removed : α → DatabaseChange)
    (changed : String → Path → α → α → List Operation) (before after : KeyMap String (Located α)) :
    List Operation :=
  let target (key : String) := table ++ "/" ++ key
  (KeyDiff.between before after).collect
    (fun key part => [op t (added part.value) (target key) part.location])
    (fun key part => [op t (removed part.value) (target key) part.location])
    (fun key old new => changed (target key) new.location old.value new.value)

/-- The change of an attribute of a table. A missing attribute is reported as an empty text. -/
def compareAttribute (t : Severity.Table) (kind : DatabaseChange) (table : String) (location : Path)
    (before after : Option String) : List Operation :=
  if before = after then []
  else [valueOp t kind table location (before.getD "") (after.getD "")]

/-- The differences of a table that is there on both sides. -/
def compareTables (t : Severity.Table) (name : String) (before after : FlatTable) :
    List Operation :=
  compareAttribute t .tableResourceChange name after.location before.resource after.resource ++
    compareAttribute t .tableEngineChange name after.location before.engine after.engine ++
    compareAttribute t .tableCommentChange name after.location before.comment after.comment ++
    compareParts t name (fun _ => .columnAdd) (fun _ => .columnRemove) (compareColumns t)
      before.columns after.columns ++
    compareParts t name (fun _ => .indexAdd) (fun _ => .indexRemove) (compareIndexes t)
      before.indexes after.indexes ++
    compareParts t name keyAdded keyRemoved
      (fun target location old new =>
        if old = new then [] else [op t (keyChanged new) target location])
      before.constraints after.constraints

/-- The differences of the flattened tables of two registries. -/
def differences (t : Severity.Table) (before after : Registry ModuleSchema) : List Operation :=
  (KeyDiff.between (flatten before) (flatten after)).collect
    (fun name table => [op t .tableAdded name table.location])
    (fun name table => [op t .tableDropped name table.location])
    (compareTables t)

end VersionBump.Database
