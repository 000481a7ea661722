import VersionBump.Toml.Literal
import VersionBump.Toml.Moment
import VersionBump.Toml.Number

/-!
# Statements of TOML documents

A document is a sequence of statements, one a line: an assignment to a key, or the header of a table
that the assignments after it belong to. What the statements mean together is decided elsewhere.

* `Value` is what an assignment assigns, `KeyPath` what it assigns to.
* `Statement.readAll?` reads a document.
-/

namespace VersionBump.Toml

/-- A key that may lead through further tables: the names of the tables, and the name in the last.
-/
structure KeyPath where
  tables : List String
  name : String
  deriving DecidableEq, Repr

/-- A value as it is written. -/
inductive Value where
  | string (s : String)
  | bool (b : Bool)
  | number (n : Numeral)
  | moment (m : Moment)
  | array (values : List Value)
  | inline (entries : List (KeyPath × Value))

/-- A line of a document. -/
inductive Statement where
  | assign (path : KeyPath) (value : Value)
  | table (path : KeyPath)
  | element (path : KeyPath)

/-! ## Blanks and comments -/

/-- Skips blanks, line ends and comments. Each step uses up a character. -/
def skipTrivia? : Nat → List Char → Option (List Char)
  | 0, cs => some cs
  | fuel + 1, cs =>
    match skipSpace cs with
    | '#' :: cs => skipTrivia? fuel (cs.dropWhile isPlain)
    | '\n' :: cs => skipTrivia? fuel cs
    | '\r' :: cs => do skipTrivia? fuel (← readChar? '\n' cs)
    | cs => some cs

/-- Ends a line: blanks, a comment, and a line end unless the text ends here. -/
def endLine? (cs : List Char) : Option (List Char) :=
  let rest :=
    match skipSpace cs with
    | '#' :: cs => cs.dropWhile isPlain
    | cs => cs
  if rest.isEmpty then some [] else (readLineEnd? rest).map (·.2)

/-! ## Keys -/

/-- Whether a character may stand in a key without quotes. -/
def isBare (c : Char) : Bool := c.isAlphanum || c == '_' || c == '-'

/-- Reads a name. -/
def readName? (cs : List Char) : Option (String × List Char) :=
  match cs with
  | '"' :: _ => readLine? cs
  | '\'' :: _ => readLine? cs
  | cs =>
    let bare := cs.takeWhile isBare
    if bare.isEmpty then none else some (String.ofList bare, cs.dropWhile isBare)

/-- The number of tables that a key may lead through, and of values that may stand inside one
another. -/
def nestingLimit : Nat := 80

/-- Reads a key, through `room` further tables at most. -/
def readPath? : Nat → List Char → Option (KeyPath × List Char)
  | 0, _ => none
  | room + 1, cs => do
    let (name, rest) ← readName? (skipSpace cs)
    match skipSpace rest with
    | '.' :: rest => do
      let (path, rest) ← readPath? room rest
      return ({ path with tables := name :: path.tables }, rest)
    | rest => return (⟨[], name⟩, rest)

/-- Reads a key and the equals sign behind it. -/
def readTarget? (cs : List Char) : Option (KeyPath × List Char) := do
  let (path, rest) ← readPath? nestingLimit cs
  let rest ← readChar? '=' rest
  return (path, skipSpace rest)

/-! ## Values -/

/-- Whether a character may stand in a value without quotes. -/
def isScalarChar (c : Char) : Bool := !isSpace c && !"=,[]\x7b\x7d#\r\n".toList.contains c

/-- Whether a character may start a further word of a value without quotes. -/
def startsWord (c : Char) : Bool := isScalarChar c && c != '.' && c != '"' && c != '\''

/-- Cuts off a value without quotes: words with blanks between them. -/
def splitScalar : List Char → List Char × List Char
  | [] => ([], [])
  | c :: cs =>
    -- Blanks belong to the value only if another word follows them.
    if isScalarChar c || (isSpace c && (skipSpace cs).head?.any startsWord) then
      let (word, rest) := splitScalar cs
      (c :: word, rest)
    else ([], c :: cs)

/-- Reads a value without quotes. -/
def readScalar? (cs : List Char) : Option (Value × List Char) :=
  let (word, rest) := splitScalar cs
  let value :=
    if word == "true".toList then some (.bool true)
    else if word == "false".toList then some (.bool false)
    else
      match Numeral.read? word with
      | some n => some (.number n)
      | none => (Moment.read? word).map .moment
  value.map (·, rest)

mutual

/-- Reads a value, `room` being the number of values that may still be opened. Two steps use up a
character, which bounds the steps by the text. -/
def readValue? (room : Nat) : Nat → List Char → Option (Value × List Char)
  | 0, _ => none
  | fuel + 1, cs =>
    match cs with
    | '"' :: _ => (readQuoted? cs).map fun (s, rest) => (.string s, rest)
    | '\'' :: _ => (readQuoted? cs).map fun (s, rest) => (.string s, rest)
    | '[' :: cs =>
      if room = 0 then none
      else (readItems? (room - 1) fuel cs).map fun (vs, rest) => (.array vs, rest)
    | '\x7b' :: cs =>
      if room = 0 then none
      else (readEntries? (room - 1) fuel cs).map fun (es, rest) => (.inline es, rest)
    | cs => readScalar? cs

/-- Reads the rest of an array, at its start or behind a comma. -/
def readItems? (room : Nat) : Nat → List Char → Option (List Value × List Char)
  | 0, _ => none
  | fuel + 1, cs => do
    match ← skipTrivia? cs.length cs with
    | ']' :: rest => return ([], rest)
    | cs =>
      let (v, rest) ← readValue? room fuel cs
      match ← skipTrivia? rest.length rest with
      | ',' :: rest =>
        let (vs, rest) ← readItems? room fuel rest
        return (v :: vs, rest)
      | ']' :: rest => return ([v], rest)
      | _ => none

/-- Reads the rest of an inline table, at its start or behind a comma. -/
def readEntries? (room : Nat) : Nat → List Char → Option (List (KeyPath × Value) × List Char)
  | 0, _ => none
  | fuel + 1, cs => do
    match ← skipTrivia? cs.length cs with
    | '\x7d' :: rest => return ([], rest)
    | cs =>
      let (path, rest) ← readPath? nestingLimit cs
      -- Unlike on a line of its own, the equals sign may be surrounded by line ends.
      let rest ← readChar? '=' (← skipTrivia? rest.length rest)
      let (v, rest) ← readValue? room fuel (← skipTrivia? rest.length rest)
      match ← skipTrivia? rest.length rest with
      | ',' :: rest =>
        let (es, rest) ← readEntries? room fuel rest
        return ((path, v) :: es, rest)
      | '\x7d' :: rest => return ([(path, v)], rest)
      | _ => none

end

/-! ## Lines -/

/-- Reads a statement up to the end of its line. -/
def Statement.read? (cs : List Char) : Option (Statement × List Char) :=
  match cs with
  | '[' :: '[' :: cs => do
    let (path, rest) ← readPath? nestingLimit cs
    let rest ← readChar? ']' (← readChar? ']' rest)
    return (.element path, ← endLine? rest)
  | '[' :: cs => do
    let (path, rest) ← readPath? nestingLimit cs
    let rest ← readChar? ']' rest
    return (.table path, ← endLine? rest)
  | cs => do
    let (path, rest) ← readTarget? cs
    let (value, rest) ← readValue? nestingLimit (2 * (rest.length + 1)) rest
    return (.assign path value, ← endLine? rest)

/-- Reads statements up to the end of the text. Each statement takes at least one character. -/
def Statement.readFrom? : Nat → List Char → Option (List Statement)
  | 0, _ => none
  | fuel + 1, cs => do
    match ← skipTrivia? cs.length cs with
    | [] => return []
    | cs =>
      let (statement, rest) ← Statement.read? cs
      return statement :: (← Statement.readFrom? fuel rest)

/-- Reads a document. A byte order mark in front does not count. -/
def Statement.readAll? (text : String) : Option (List Statement) :=
  let cs :=
    match text.toList with
    | '\uFEFF' :: cs => cs
    | cs => cs
  Statement.readFrom? (cs.length + 1) cs

end VersionBump.Toml
