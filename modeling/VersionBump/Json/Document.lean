import VersionBump.Json.Token

/-!
# JSON documents as far as they can be read

A text is read into a tree that ends where the text is broken, with the fault in place of what
cannot be read. Whoever decodes the tree in the order of the text meets the first complaint first,
be it one about the form of the text or one about its meaning.

* `Node` is a value, `Items` and `Members` are what lists and objects hold.
* `Document.read` reads a text. It never fails: faults are part of the tree.
-/

namespace VersionBump.Json

/-- The end of a list or object that is not closed: what to say when it is read, when it is skipped,
and when it should have been closed here. -/
structure Break where
  read : SyntaxError
  skipped : SyntaxError
  closing : SyntaxError
  deriving DecidableEq, Repr, Inhabited

mutual

/-- A value, or the fault that stands in its place. A value that no colon leads to is never begun, so
what is said about it does not depend on what is expected. -/
inductive Node where
  | null
  | bool (b : Bool)
  | number (n : Number)
  | string (s : Except SyntaxError String)
  | array (items : Items)
  | object (members : Members)
  | missing
  | brokenString (f : Fault)
  | broken (f : Fault)
  | unreached (e : SyntaxError)

/-- The rest of a list. -/
inductive Items where
  | closed
  | cut (b : Break)
  | item (first : Node) (rest : Items)

/-- The rest of an object. An object without a key may hold another value in its place. -/
inductive Members where
  | closed
  | cut (b : Break)
  | keyless (found : Node)
  | member (key : Except SyntaxError String) (value : Node) (rest : Members)

end

/-- A value with the information whether something follows it. -/
structure Document where
  root : Node
  followed : Bool

/-- The blanks of JSON. -/
def isBlank (c : Char) : Bool := c == ' ' || c == '\n' || c == '\t' || c == '\r'

/-- The text without blanks in front. -/
def skipBlanks (cs : List Char) : List Char := cs.dropWhile isBlank

/-- A value together with the text after it, which is missing if the value is broken. -/
abbrev Read (α : Type) := α × Option (List Char)

/-- Reads the rest of a word whose first letter is behind. -/
def readWord (word : List Char) (value : Node) (cs : List Char) : Read Node :=
  match word, cs with
  | [], cs => (value, some cs)
  | _ :: _, [] => (.broken (.both .valueEnds), none)
  | w :: ws, c :: cs =>
    if c == w then readWord ws value cs else (.broken (.both .identExpected), none)

/-- What is read of a string: its text if that can be decoded, or the fault that hides its end. -/
def readText (cs : List Char) : Except Fault (Except SyntaxError String × List Char) :=
  -- Skipping finds the end of some strings that cannot be decoded; the text goes on behind them.
  match skipString cs, readString cs with
  | .ok rest, decoded => .ok (decoded.map fun d => String.ofList d.1, rest)
  | .error skipped, .error read => .error ⟨read, skipped⟩
  | .error skipped, .ok _ => .error (.both skipped)

/-- Reads a value that is no list or object and starts with `c`. -/
def readScalar (c : Char) (cs : List Char) : Read Node :=
  if c == '"' then
    match readText cs with
    | .ok (s, rest) => (.string s, some rest)
    | .error f => (.brokenString f, none)
  else if c == 'n' then readWord "ull".toList .null cs
  else if c == 't' then readWord "rue".toList (.bool true) cs
  else if c == 'f' then readWord "alse".toList (.bool false) cs
  else if c == '-' || c.isDigit then
    match lexNumber (c :: cs) with
    | .ok (n, rest) => (.number n, some rest)
    | .error f => (.broken f, none)
  else (.broken (.both .valueExpected), none)

/-- The breaks of lists. -/
def listEnds : Break := ⟨.listEnds, .listEnds, .listEnds⟩
/-- A comma before a closing bracket. -/
def listComma : Break := ⟨.trailingComma, .valueExpected, .trailingComma⟩
/-- A comma at the end of the text. -/
def listCommaEnds : Break := ⟨.valueEnds, .valueEnds, .trailingCharacters⟩
/-- Something else than a comma or a bracket. -/
def listJunk : Break := ⟨.listCommaExpected, .listCommaExpected, .trailingCharacters⟩

/-- The breaks of objects. -/
def objectEnds : Break := ⟨.objectEnds, .objectEnds, .objectEnds⟩
/-- A comma before a closing brace. -/
def objectComma : Break := ⟨.trailingComma, .keyNotString, .valueExpected⟩
/-- A comma at the end of the text. -/
def objectCommaEnds : Break := ⟨.valueEnds, .objectEnds, .valueExpected⟩
/-- Something else than a comma or a brace. -/
def objectJunk : Break := ⟨.objectCommaExpected, .objectCommaExpected, .valueExpected⟩
/-- A key that is no string, behind a comma. -/
def keyJunk : Break := ⟨.keyNotString, .keyNotString, .valueExpected⟩
/-- A key that does not end properly. -/
def keyBreak (f : Fault) : Break := ⟨f.read, f.skipped, .valueExpected⟩

mutual

/-- Reads a value. At most three steps use up a character, which bounds the steps by the text. -/
def readValue : Nat → List Char → Read Node
  | 0, _ => (.missing, none)
  | fuel + 1, cs =>
    match skipBlanks cs with
    | [] => (.missing, none)
    | c :: cs =>
      if c == '[' then
        let (items, rest) := readItems fuel true cs
        (.array items, rest)
      else if c == '\x7b' then
        let (members, rest) := readMembers fuel true cs
        (.object members, rest)
      else readScalar c cs

/-- Reads the rest of a list, at its start or behind an item. -/
def readItems : Nat → Bool → List Char → Read Items
  | 0, _, _ => (.cut listEnds, none)
  | fuel + 1, atStart, cs =>
    match skipBlanks cs with
    | [] => (.cut listEnds, none)
    | c :: cs =>
      if c == ']' then (.closed, some cs)
      else if atStart then readItem fuel (c :: cs)
      else if c == ',' then
        match skipBlanks cs with
        | [] => (.cut listCommaEnds, none)
        | d :: ds => if d == ']' then (.cut listComma, none) else readItem fuel (d :: ds)
      else (.cut listJunk, none)

/-- Reads an item and the rest of its list. -/
def readItem : Nat → List Char → Read Items
  | 0, _ => (.cut listEnds, none)
  | fuel + 1, cs =>
    match readValue fuel cs with
    | (v, none) => (.item v .closed, none)
    | (v, some rest) =>
      let (items, rest) := readItems fuel false rest
      (.item v items, rest)

/-- Reads the rest of an object, at its start or behind a member. -/
def readMembers : Nat → Bool → List Char → Read Members
  | 0, _, _ => (.cut objectEnds, none)
  | fuel + 1, atStart, cs =>
    match skipBlanks cs with
    | [] => (.cut objectEnds, none)
    | c :: cs =>
      if c == '\x7d' then (.closed, some cs)
      else if atStart then
        -- What stands in place of the first key is kept, because a complaint may name it.
        if c == '"' then readMember fuel cs else (.keyless (readValue fuel (c :: cs)).1, none)
      else if c == ',' then
        match skipBlanks cs with
        | [] => (.cut objectCommaEnds, none)
        | d :: ds =>
          if d == '"' then readMember fuel ds
          else if d == '\x7d' then (.cut objectComma, none)
          else (.cut keyJunk, none)
      else (.cut objectJunk, none)

/-- Reads a member whose opening quote is behind, and the rest of its object. -/
def readMember : Nat → List Char → Read Members
  | 0, _ => (.cut objectEnds, none)
  | fuel + 1, cs =>
    match readText cs with
    | .error f => (.cut (keyBreak f), none)
    | .ok (key, rest) =>
      match skipBlanks rest with
      | [] => (.member key (.unreached .objectEnds) .closed, none)
      | c :: cs =>
        if c ≠ ':' then (.member key (.unreached .colonExpected) .closed, none)
        else
          match readValue fuel cs with
          | (v, none) => (.member key v .closed, none)
          | (v, some rest) =>
            let (members, rest) := readMembers fuel false rest
            (.member key v members, rest)

end

/-- Reads a text. -/
def Document.read (s : String) : Document :=
  let cs := s.toList
  match readValue (3 * (cs.length + 1)) cs with
  | (root, none) => ⟨root, false⟩
  | (root, some rest) => ⟨root, !(skipBlanks rest).isEmpty⟩

/-! ## Complaints about a whole tree -/

/-- The complaint about a string that is read, if there is one. -/
def textFault? : Except SyntaxError String → Option SyntaxError
  | .ok _ => none
  | .error e => some e

mutual

/-- The first complaint about a value that is skipped. -/
def Node.skipFault? : Node → Option SyntaxError
  | .null | .bool _ | .number _ | .string _ => none
  | .array items => items.skipFault?
  | .object members => members.skipFault?
  | .missing => some .valueEnds
  | .brokenString f => some f.skipped
  | .broken f => some f.skipped
  | .unreached e => some e

/-- The first complaint about the rest of a list that is skipped. -/
def Items.skipFault? : Items → Option SyntaxError
  | .closed => none
  | .cut b => some b.skipped
  | .item v rest => v.skipFault?.orElse fun _ => rest.skipFault?

/-- The first complaint about the rest of an object that is skipped. -/
def Members.skipFault? : Members → Option SyntaxError
  | .closed => none
  | .cut b => some b.skipped
  | .keyless _ => some .keyNotString
  | .member _ v rest => v.skipFault?.orElse fun _ => rest.skipFault?

end

/-- The number of lists and objects that may stand inside one another where a value is read whole.
-/
def nestingLimit : Nat := 127

mutual

/-- The first complaint about a value that is read whole, `room` being the number of lists and
objects that may still be opened. -/
def Node.readFault? (room : Nat) : Node → Option SyntaxError
  | .null | .bool _ => none
  | .number n =>
    match n.numeric with
    | .ok _ => none
    | .error e => some e
  | .string s => textFault? s
  | .array items => if room = 0 then some .recursionLimit else items.readFault? (room - 1)
  | .object members => if room = 0 then some .recursionLimit else members.readFault? (room - 1)
  | .missing => some .valueEnds
  | .brokenString f => some f.read
  | .broken f => some f.read
  | .unreached e => some e

/-- The first complaint about the rest of a list that is read whole. -/
def Items.readFault? (room : Nat) : Items → Option SyntaxError
  | .closed => none
  | .cut b => some b.read
  | .item v rest => (v.readFault? room).orElse fun _ => rest.readFault? room

/-- The first complaint about the rest of an object that is read whole. -/
def Members.readFault? (room : Nat) : Members → Option SyntaxError
  | .closed => none
  | .cut b => some b.read
  | .keyless _ => some .keyNotString
  | .member key v rest =>
    (textFault? key).orElse fun _ =>
      (v.readFault? room).orElse fun _ => rest.readFault? room

end

end VersionBump.Json
