import VersionBump.Toml.Statement

/-!
# Tables of TOML

The table that the statements of a document describe together. A key is assigned once, and a table
is defined once; how a table came to be decides who may still add to it.

* `Table.ofStatements?` collects a document, `Table.find?` looks up a key.
* `Table.isSound` asks whether all numerals in a table stand for numbers.
-/

namespace VersionBump.Toml

/-- How a table came to be: as a step to another table in a header, as a step to a key in an
assignment, by a header of its own, or in one piece as a value. -/
inductive Origin where
  | implied
  | dotted
  | defined
  | closed
  deriving DecidableEq, Repr

/-- Whether a key may lead through a table, in an assignment or in a header. -/
def Origin.admits (inAssignment : Bool) : Origin → Bool
  | implied => true
  | dotted => true
  | defined => !inAssignment
  | closed => false

mutual

/-- A value of a document. The tables under a header that may be repeated are `elements`. -/
inductive Node where
  | string (s : String)
  | bool (b : Bool)
  | number (n : Numeral)
  | moment (m : Moment)
  | array (items : List Node)
  | table (t : Table)
  | elements (earlier : List Table) (last : Table)

/-- The values under some keys. -/
inductive Table where
  | mk (origin : Origin) (entries : List (String × Node))

end

mutual

/-- Whether every numeral in a value stands for a number. -/
def Node.isSound : Node → Bool
  | .string _ | .bool _ | .moment _ => true
  | .number n => n.hasValue
  | .array items => areSound items
  | .table t => t.isSound
  | .elements earlier last => areSoundTables earlier && last.isSound

/-- Whether every numeral in some values stands for a number. -/
def areSound : List Node → Bool
  | [] => true
  | item :: items => item.isSound && areSound items

/-- Whether every numeral in some tables stands for a number. -/
def areSoundTables : List Table → Bool
  | [] => true
  | t :: ts => t.isSound && areSoundTables ts

/-- Whether every numeral in a table stands for a number. -/
def Table.isSound : Table → Bool
  | .mk _ entries => areSoundEntries entries

/-- Whether every numeral under some keys stands for a number. -/
def areSoundEntries : List (String × Node) → Bool
  | [] => true
  | (_, value) :: entries => value.isSound && areSoundEntries entries

end

namespace Table

/-- How the table came to be. -/
def origin : Table → Origin
  | mk o _ => o

/-- The keys with their values. -/
def entries : Table → List (String × Node)
  | mk _ es => es

/-- A table without keys. -/
def empty (origin : Origin) : Table := mk origin []

instance : Inhabited Table := ⟨empty .defined⟩

/-- The value under a key. -/
def find? (t : Table) (key : String) : Option Node := t.entries.lookup key

/-- Whether every numeral under keys other than the known ones stands for a number. -/
def isSoundBeside (known : List String) (t : Table) : Bool :=
  areSoundEntries (t.entries.filter fun e => !known.contains e.1)

/-- The table with a value under a key in place of any other. -/
def set (t : Table) (key : String) (value : Node) : Table :=
  mk t.origin ((key, value) :: t.entries.filter (·.1 != key))

/-- Changes the table that names lead to. Tables that are missing on the way are made, and of
repeated tables the last one is meant. -/
def alter? (inAssignment : Bool) (change : Table → Option Table) :
    List String → Table → Option Table
  | [], t => change t
  | name :: names, t =>
    match t.find? name with
    | none => do
      let child ← alter? inAssignment change names
        (empty (if inAssignment then .dotted else .implied))
      return t.set name (.table child)
    -- How the table came to be decides whether a key may lead through it.
    | some (.table child) =>
      if child.origin.admits inAssignment then do
        return t.set name (.table (← alter? inAssignment change names child))
      else none
    | some (.elements earlier last) => do
      return t.set name (.elements earlier (← alter? inAssignment change names last))
    | some _ => none

/-- Puts a value under a new key. A key that leads through tables ends in one that such keys have
made. -/
def assign? (path : KeyPath) (value : Node) (t : Table) : Option Table :=
  let put (t : Table) : Option Table :=
    if (path.tables.isEmpty || t.origin = .dotted) && (t.find? path.name).isNone then
      some (t.set path.name value)
    else none
  alter? true put path.tables t

mutual

/-- The meaning of a value, unless a table in it has a key twice. -/
def ofValue? : Value → Option Node
  | .string s => some (.string s)
  | .bool b => some (.bool b)
  | .number n => some (.number n)
  | .moment m => some (.moment m)
  | .array vs => do return .array (← ofValues? vs)
  | .inline es => do return .table (mk .closed (← ofEntries? es (empty .defined)).entries)

/-- The meanings of some values. -/
def ofValues? : List Value → Option (List Node)
  | [] => some []
  | v :: vs => do return (← ofValue? v) :: (← ofValues? vs)

/-- A table with further entries. -/
def ofEntries? : List (KeyPath × Value) → Table → Option Table
  | [], t => some t
  | (path, v) :: rest, t => do ofEntries? rest (← t.assign? path (← ofValue? v))

end

/-- A table with the assignments in front of the next header. -/
def fill? : List Statement → Table → Option Table
  | .assign path value :: rest, t => do fill? rest (← t.assign? path (← ofValue? value))
  | _, t => some t

/-- Defines a table under a key, where at most a step to another table may stand. -/
def define? (name : String) (body : List Statement) (t : Table) : Option Table :=
  match t.find? name with
  | none => do return t.set name (.table (← fill? body (empty .defined)))
  | some (.table child) =>
    -- A header above a table may come after it, but only once.
    if child.origin = .implied then do
      return t.set name (.table (← fill? body (mk .defined child.entries)))
    else none
  | some _ => none

/-- Adds a table to the repeated tables under a key. -/
def extend? (name : String) (body : List Statement) (t : Table) : Option Table :=
  match t.find? name with
  | none => do return t.set name (.elements [] (← fill? body (empty .defined)))
  | some (.elements earlier last) => do
    return t.set name (.elements (earlier ++ [last]) (← fill? body (empty .defined)))
  | some _ => none

/-- A table with the tables that headers define. Assignments belong to the header above them. -/
def enter? : List Statement → Table → Option Table
  | [], t => some t
  | .assign .. :: rest, t => enter? rest t
  | .table path :: rest, t => do
    enter? rest (← alter? false (define? path.name rest) path.tables t)
  | .element path :: rest, t => do
    enter? rest (← alter? false (extend? path.name rest) path.tables t)

/-- The table that a document describes, unless it defines something twice. -/
def ofStatements? (statements : List Statement) : Option Table := do
  enter? statements (← fill? statements (empty .defined))

/-- Reads a document. -/
def read? (text : String) : Option Table := do ofStatements? (← Statement.readAll? text)

end Table

end VersionBump.Toml
