import VersionBump.Database.Schema
import VersionBump.Json.Value
import VersionBump.Manifest.Record

/-!
# Manifests of database schemas

The tables of one module. The kind of a key is a field among the others of the key, so the fields
are read whole before they are decoded.

* `Database.decodeFile` decodes a manifest.
* `Database.encodeFile` writes one with every field.
-/

namespace VersionBump.Manifest.Database

open Json VersionBump.Database

/-- The kind of a key. -/
inductive KeyKind where
  | primary
  | unique
  | foreign
  deriving DecidableEq, Repr, Inhabited

/-- The keywords of kinds of keys. -/
def keyKinds : List (String × KeyKind) :=
  [("primary", .primary), ("unique", .unique), ("foreign", .foreign)]

/-- The name of the field that holds the kind of a key. -/
def kindField : String := "type"

/-- The fields of a primary key. -/
def primaryFields : Record Constraint :=
  Constraint.primary <$> required "reference_id" text <*> required "columns" (list text)

/-- The fields of a unique key. -/
def uniqueFields : Record Constraint :=
  Constraint.unique <$> required "reference_id" text <*> required "columns" (list text)

/-- The fields of a foreign key. -/
def foreignFields : Record Constraint :=
  Constraint.foreign <$> required "reference_id" text <*> required "column" text <*>
    required "reference_table" text <*> required "reference_column" text <*> maybe "on_delete" text

/-- The fields of a key of a kind. -/
def keyFields : KeyKind → Record Constraint
  | .primary => primaryFields
  | .unique => uniqueFields
  | .foreign => foreignFields

/-- The name of the record of a key of a kind. -/
def keyName : KeyKind → String
  | .primary => "struct variant Constraint::Primary"
  | .unique => "struct variant Constraint::Unique"
  | .foreign => "struct variant Constraint::Foreign"

/-- The kind of a key as it stands in a manifest. -/
def keyKind : Decoder KeyKind
  | .string (.ok s) => ofKeyword keyKinds s
  | node => .error (mismatch "variant identifier" node)

/-- The lists and objects that may be opened inside a key. The key itself is the fifth from the
outside. -/
def roomInKey : Nat := nestingLimit - 5

/-- The kind of a key and its other fields. -/
def splitKey (kind : Option KeyKind) : Members → Except DecodeError (Option KeyKind × Members)
  | .closed => .ok (kind, .closed)
  | .cut b => .error (.form b.read)
  | .keyless _ => .error (.form .keyNotString)
  | .member (.error e) _ _ => .error (.form e)
  | .member (.ok key) value rest =>
    -- The kind is decoded where it stands, so a wrong kind is noticed before later faults.
    if key = kindField then
      if kind.isSome then .error (.data (.duplicateField kindField))
      else do
        let found ← keyKind value
        splitKey (some found) rest
    else
      match value.readFault? roomInKey with
      | some e => .error (.form e)
      | none => do
        let (kind, others) ← splitKey kind rest
        return (kind, .member (.ok key) value others)

/-- The number of items of a list. -/
def itemCount : Items → Nat
  | .item _ rest => itemCount rest + 1
  | _ => 0

/-- The words for a number of items. -/
def sequenceWords (n : Nat) : String :=
  VersionBump.Text.ofNat n ++ if n = 1 then " element in sequence" else " elements in sequence"

/-- The end of a list that holds the fields of a key. -/
def closeKey (fields : Nat) : Constraint × Items → Except DecodeError Constraint
  | (c, .closed) => .ok c
  | (_, rest) => .error (.data (.invalidLength (fields + itemCount rest) (sequenceWords fields)))

/-- A key of a table, as an object or as a list that starts with the kind. -/
def constraint : Decoder Constraint
  | .object members => do
    let (kind, others) ← splitKey none members
    match kind with
    | none => .error (.data (.missingField kindField))
    | some kind => (keyFields kind).ofObject others
  | .array .closed => .error (.data (.missingField kindField))
  | .array (.cut b) => .error (.form b.read)
  | .array (.item first rest) => do
    let kind ← keyKind first
    match rest.readFault? roomInKey with
    | some e => .error (.form e)
    | none =>
      let fields := keyFields kind
      closeKey fields.names.length (← fields.ofItems (fields.expectation (keyName kind)) 0 rest)
  | node => .error (mismatch "internally tagged enum Constraint" node)

/-- The fields of a column. -/
def columnFields : Record Column :=
  Column.mk <$> required "name" text <*> required "type" text <*> defaulted "nullable" flag true <*>
    maybe "default" text <*> maybe "length" word <*> maybe "precision" word <*>
    maybe "scale" word <*> defaulted "unsigned" flag false <*> defaulted "identity" flag false <*>
    maybe "comment" text

/-- The fields of an index. -/
def indexFields : Record Index :=
  Index.mk <$> required "reference_id" text <*> defaulted "index_type" text "btree" <*>
    defaulted "columns" (list text) []

/-- The fields of a table. -/
def tableFields : Record Table :=
  Table.mk <$> required "name" text <*> maybe "resource" text <*> maybe "engine" text <*>
    maybe "comment" text <*> defaulted "columns" (list (columnFields.decode "struct Column")) [] <*>
    defaulted "indexes" (list (indexFields.decode "struct Index")) [] <*>
    defaulted "constraints" (list constraint) []

/-- The fields of the schema of a module. -/
def schemaFields : Record ModuleSchema :=
  ModuleSchema.mk <$> required "module" text <*>
    defaulted "tables" (list (tableFields.decode "struct Table")) []

/-- The schema of a module. -/
def decodeFile : Decoder ModuleSchema := schemaFields.decode "struct ModuleSchema"

/-- An optional number as JSON. -/
def encodeWord : Option Nat → Value
  | none => .null
  | some n => .nat n

/-- A column as JSON. -/
def encodeColumn (c : Column) : Value :=
  .object [("name", .string c.name), ("type", .string c.type), ("nullable", .bool c.nullable),
    ("default", .optional c.default), ("length", encodeWord c.length),
    ("precision", encodeWord c.precision), ("scale", encodeWord c.scale),
    ("unsigned", .bool c.unsigned), ("identity", .bool c.identity),
    ("comment", .optional c.comment)]

/-- An index as JSON. -/
def encodeIndex (i : Index) : Value :=
  .object [("reference_id", .string i.referenceId), ("index_type", .string i.type),
    ("columns", .strings i.columns)]

/-- A key as JSON. -/
def encodeConstraint : Constraint → Value
  | .primary r cs =>
    .object [(kindField, .string "primary"), ("reference_id", .string r), ("columns", .strings cs)]
  | .unique r cs =>
    .object [(kindField, .string "unique"), ("reference_id", .string r), ("columns", .strings cs)]
  | .foreign r c t rc d =>
    .object [(kindField, .string "foreign"), ("reference_id", .string r), ("column", .string c),
      ("reference_table", .string t), ("reference_column", .string rc), ("on_delete", .optional d)]

/-- A table as JSON. -/
def encodeTable (t : Table) : Value :=
  .object [("name", .string t.name), ("resource", .optional t.resource),
    ("engine", .optional t.engine), ("comment", .optional t.comment),
    ("columns", .array (t.columns.map encodeColumn)),
    ("indexes", .array (t.indexes.map encodeIndex)),
    ("constraints", .array (t.constraints.map encodeConstraint))]

/-- The schema of a module as JSON. -/
def encodeFile (s : ModuleSchema) : Value :=
  .object [("module", .string s.module), ("tables", .array (s.tables.map encodeTable))]

end VersionBump.Manifest.Database
