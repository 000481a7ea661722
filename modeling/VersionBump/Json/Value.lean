import VersionBump.Text.Case

/-!
# JSON values and their texts

The values that are written as JSON, and the two layouts in which they are written.

* `Value.compact` writes a value without blanks.
* `Value.pretty` writes it with one member per line, indented by two blanks.
* `quote` writes a text as a string.
-/

namespace VersionBump.Json

/-- A JSON value without fractions. -/
inductive Value where
  | null
  | bool (b : Bool)
  | nat (n : Nat)
  | string (s : String)
  | array (items : List Value)
  | object (members : List (String × Value))
  deriving Repr, Inhabited

/-- The characters between the quotes that stand for `c`. -/
def escape (c : Char) : List Char :=
  if c == '"' then ['\\', '"']
  else if c == '\\' then ['\\', '\\']
  else if c == '\x08' then ['\\', 'b']
  else if c == '\x0c' then ['\\', 'f']
  else if c == '\n' then ['\\', 'n']
  else if c == '\r' then ['\\', 'r']
  else if c == '\t' then ['\\', 't']
  else if c.toNat < 0x20 then
    ['\\', 'u', '0', '0', Nat.digitChar (c.toNat / 16), Nat.digitChar (c.toNat % 16)]
  else [c]

/-- The text as a string in quotes. -/
def quoteChars (s : List Char) : List Char := '"' :: (s.flatMap escape ++ ['"'])

/-- The text as a string in quotes. -/
def quote (s : String) : String := String.ofList (quoteChars s.toList)

namespace Value

/-- The value of an optional text. -/
def optional : Option String → Value
  | none => null
  | some s => string s

/-- The list of texts. -/
def strings (ss : List String) : Value := array (ss.map string)

mutual

/-- The characters of a value without blanks. -/
def compactChars : Value → List Char
  | null => "null".toList
  | bool true => "true".toList
  | bool false => "false".toList
  | nat n => Nat.toDigits 10 n
  | string s => quoteChars s.toList
  | array [] => ['[', ']']
  | array (v :: vs) => '[' :: (compactChars v ++ compactItems vs)
  | object [] => ['\x7b', '\x7d']
  | object ((k, v) :: ms) =>
    '\x7b' :: (quoteChars k.toList ++ ':' :: (compactChars v ++ compactMembers ms))

/-- The characters of the items after the first, with the closing bracket. -/
def compactItems : List Value → List Char
  | [] => [']']
  | v :: vs => ',' :: (compactChars v ++ compactItems vs)

/-- The characters of the members after the first, with the closing brace. -/
def compactMembers : List (String × Value) → List Char
  | [] => ['\x7d']
  | (k, v) :: ms => ',' :: (quoteChars k.toList ++ ':' :: (compactChars v ++ compactMembers ms))

end

/-- The text of a value without blanks. -/
def compact (v : Value) : String := String.ofList v.compactChars

/-- A line break and the indentation of a level. -/
def newLine (level : Nat) : List Char := '\n' :: List.replicate (2 * level) ' '

mutual

/-- The characters of a value at a level of indentation. -/
def prettyChars (level : Nat) : Value → List Char
  | null => "null".toList
  | bool true => "true".toList
  | bool false => "false".toList
  | nat n => Nat.toDigits 10 n
  | string s => quoteChars s.toList
  | array [] => ['[', ']']
  | array (v :: vs) =>
    '[' :: (newLine (level + 1) ++ prettyChars (level + 1) v ++ prettyItems level vs)
  | object [] => ['\x7b', '\x7d']
  | object ((k, v) :: ms) =>
    '\x7b' :: (newLine (level + 1) ++ quoteChars k.toList ++ ':' :: ' ' ::
      (prettyChars (level + 1) v ++ prettyMembers level ms))

/-- The characters of the items after the first, with the closing bracket. -/
def prettyItems (level : Nat) : List Value → List Char
  | [] => newLine level ++ [']']
  | v :: vs => ',' :: (newLine (level + 1) ++ prettyChars (level + 1) v ++ prettyItems level vs)

/-- The characters of the members after the first, with the closing brace. -/
def prettyMembers (level : Nat) : List (String × Value) → List Char
  | [] => newLine level ++ ['\x7d']
  | (k, v) :: ms =>
    ',' :: (newLine (level + 1) ++ quoteChars k.toList ++ ':' :: ' ' ::
      (prettyChars (level + 1) v ++ prettyMembers level ms))

end

/-- The text of a value with one member per line. -/
def pretty (v : Value) : String := String.ofList (v.prettyChars 0)

end Value

end VersionBump.Json
