import VersionBump.Decimal.Shortest
import VersionBump.Json.Document
import VersionBump.Text.Quoted

/-!
# Decoding manifests

A decoder turns a JSON node into a value of the domain, or finds the first complaint in the order of
the text. Complaints about the form of the text and about its meaning are of one type.

* `DecodeError.message` words a complaint.
* `text`, `flag`, `word`, `optional`, `list` and `keyword` are the decoders of simple values.
-/

namespace VersionBump.Manifest

open Json

/-- What is wrong with the meaning of a manifest. -/
inductive DataError where
  | invalidType (found expected : String)
  | invalidValue (found expected : String)
  | invalidLength (length : Nat) (expected : String)
  | unknownVariant (found : String) (known : List String)
  | missingField (name : String)
  | duplicateField (name : String)
  | noVariant (type : String)
  deriving DecidableEq, Repr, Inhabited

/-- What is wrong with a manifest. -/
inductive DecodeError where
  | form (e : SyntaxError)
  | data (e : DataError)
  deriving DecidableEq, Repr, Inhabited

/-- The words between backticks. -/
def ticked (s : String) : String := "`" ++ s ++ "`"

/-- A choice among words. -/
def choice : List String → String
  | [] => "there are no variants"
  | [a] => ticked a
  | [a, b] => ticked a ++ " or " ++ ticked b
  | words => "one of " ++ VersionBump.Text.joinWith ", " (words.map ticked)

/-- The complaint about the meaning of a manifest. -/
def DataError.message : DataError → String
  | invalidType found expected => "invalid type: " ++ found ++ ", expected " ++ expected
  | invalidValue found expected => "invalid value: " ++ found ++ ", expected " ++ expected
  | invalidLength n expected =>
    "invalid length " ++ VersionBump.Text.ofNat n ++ ", expected " ++ expected
  | unknownVariant found known =>
    if known.isEmpty then "unknown variant " ++ ticked found ++ ", there are no variants"
    else "unknown variant " ++ ticked found ++ ", expected " ++ choice known
  | missingField name => "missing field " ++ ticked name
  | duplicateField name => "duplicate field " ++ ticked name
  | noVariant type => "data did not match any variant of untagged enum " ++ type

namespace DecodeError

/-- The complaint about a manifest. -/
def message : DecodeError → String
  | form e => e.message
  | data e => e.message

/-- The class of a complaint. -/
def category : DecodeError → Category
  | form e => e.category
  | data _ => .data

end DecodeError

/-- Reads a node as a value of the domain. -/
abbrev Decoder (α : Type) := Node → Except DecodeError α

/-- The words for a number. -/
def describeNumeric : Numeric → String
  | .natural n => "integer " ++ ticked (VersionBump.Text.ofNat n)
  | .negative n => "integer " ++ ticked ("-" ++ VersionBump.Text.ofNat n)
  | .float x => "floating point " ++ ticked (Decimal.floatText x)

/-- The complaint that a node is not what is expected, or the complaint that comes before it. -/
def mismatch (expected : String) : Node → DecodeError
  | .null => .data (.invalidType "null" expected)
  | .bool b => .data (.invalidType ("boolean " ++ ticked (if b then "true" else "false")) expected)
  | .number n =>
    match n.numeric with
    | .ok value => .data (.invalidType (describeNumeric value) expected)
    | .error e => .form e
  | .string (.ok s) => .data (.invalidType ("string " ++ VersionBump.Text.quoted s) expected)
  | .string (.error e) => .form e
  | .array _ => .data (.invalidType "sequence" expected)
  | .object _ => .data (.invalidType "map" expected)
  | .missing => .form .valueEnds
  | .brokenString f => .form f.read
  | .broken f => .form f.read
  | .unreached e => .form e

/-- A text. -/
def text : Decoder String
  | .string (.ok s) => .ok s
  | node => .error (mismatch "a string" node)

/-- A truth value. -/
def flag : Decoder Bool
  | .bool b => .ok b
  | node => .error (mismatch "a boolean" node)

/-- The greatest word. -/
def maxWord : Nat := 0xFFFFFFFF

/-- A number of 32 bits without sign. -/
def word : Decoder Nat
  | .number n =>
    match n.numeric with
    | .error e => .error (.form e)
    | .ok (.natural k) =>
      if k ≤ maxWord then .ok k
      else .error (.data (.invalidValue (describeNumeric (.natural k)) "u32"))
    | .ok (.negative k) => .error (.data (.invalidValue (describeNumeric (.negative k)) "u32"))
    | .ok (.float x) => .error (.data (.invalidType (describeNumeric (.float x)) "u32"))
  | node => .error (mismatch "u32" node)

/-- A value that may be null. -/
def optional {α : Type} (d : Decoder α) : Decoder (Option α)
  | .null => .ok none
  | node => (d node).map some

/-- The items of a list. -/
def items {α : Type} (d : Decoder α) : Items → Except DecodeError (List α)
  | .closed => .ok []
  | .cut b => .error (.form b.read)
  | .item first rest => do
    let a ← d first
    let others ← items d rest
    return a :: others

/-- A list. -/
def list {α : Type} (d : Decoder α) : Decoder (List α)
  | .array is => items d is
  | node => .error (mismatch "a sequence" node)

/-- The value of a keyword. -/
def ofKeyword {α : Type} (known : List (String × α)) (s : String) : Except DecodeError α :=
  match known.lookup s with
  | some a => .ok a
  | none => .error (.data (.unknownVariant s (known.map (·.1))))

/-- The end of an object that holds a keyword. -/
def closeKeyword {α : Type} (a : α) : Members → Except DecodeError α
  | .closed => .ok a
  | .cut b => .error (.form b.closing)
  | _ => .error (.form .valueExpected)

/-- A keyword as the only key of an object, with null under it. -/
def keywordObject {α : Type} (known : List (String × α)) : Members → Except DecodeError α
  | .closed => .error (.form .valueExpected)
  | .cut b => .error (.form (if b = objectEnds then .valueEnds else b.read))
  | .keyless found => .error (mismatch "variant identifier" found)
  | .member (.error e) _ _ => .error (.form e)
  | .member (.ok key) value rest => do
    let a ← ofKeyword known key
    match value with
    | .null => closeKeyword a rest
    | node => .error (mismatch "unit" node)

/-- One of several keywords. -/
def keyword {α : Type} (known : List (String × α)) : Decoder α
  | .string (.ok s) => ofKeyword known s
  | .string (.error e) => .error (.form e)
  | .object members => keywordObject known members
  | .missing => .error (.form .valueEnds)
  | .brokenString f => .error (.form f.read)
  | .unreached e => .error (.form e)
  -- Nothing else can begin a keyword, so it is not looked at any further.
  | _ => .error (.form .valueExpected)

end VersionBump.Manifest
