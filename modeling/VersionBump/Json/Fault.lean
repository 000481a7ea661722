/-!
# Faults of JSON texts

What can be wrong with a JSON text. The same place may be wrong in different ways: where a value is
only skipped, less is checked than where it is read, and the complaint can be another one.
-/

namespace VersionBump.Json

/-- What is wrong with a text. -/
inductive SyntaxError where
  | listEnds
  | objectEnds
  | stringEnds
  | valueEnds
  | colonExpected
  | listCommaExpected
  | objectCommaExpected
  | identExpected
  | valueExpected
  | invalidEscape
  | invalidNumber
  | numberOutOfRange
  | controlCharacter
  | keyNotString
  | loneSurrogate
  | hexEscapeEnds
  | trailingComma
  | trailingCharacters
  | recursionLimit
  deriving DecidableEq, Repr, Inhabited

/-- Classes of complaints about a manifest. -/
inductive Category where
  | syntactic
  | data
  | ending
  deriving DecidableEq, Repr, Inhabited

/-- The name of a class of complaints. -/
def Category.name : Category → String
  | .syntactic => "syntax"
  | .data => "data"
  | .ending => "eof"

namespace SyntaxError

/-- A text that ends too early is told apart from one that is wrong. -/
def category : SyntaxError → Category
  | listEnds | objectEnds | stringEnds | valueEnds => .ending
  | _ => .syntactic

/-- The complaint. -/
def message : SyntaxError → String
  | listEnds => "EOF while parsing a list"
  | objectEnds => "EOF while parsing an object"
  | stringEnds => "EOF while parsing a string"
  | valueEnds => "EOF while parsing a value"
  | colonExpected => "expected `:`"
  | listCommaExpected => "expected `,` or `]`"
  | objectCommaExpected => "expected `,` or `\x7d`"
  | identExpected => "expected ident"
  | valueExpected => "expected value"
  | invalidEscape => "invalid escape"
  | invalidNumber => "invalid number"
  | numberOutOfRange => "number out of range"
  | controlCharacter => "control character (\\u0000-\\u001F) found while parsing a string"
  | keyNotString => "key must be a string"
  | loneSurrogate => "lone leading surrogate in hex escape"
  | hexEscapeEnds => "unexpected end of hex escape"
  | trailingComma => "trailing comma"
  | trailingCharacters => "trailing characters"
  | recursionLimit => "recursion limit exceeded"

end SyntaxError

/-- The complaints about one place: when it is read, and when it is skipped. -/
structure Fault where
  read : SyntaxError
  skipped : SyntaxError
  deriving DecidableEq, Repr, Inhabited

/-- The same complaint either way. -/
def Fault.both (e : SyntaxError) : Fault := ⟨e, e⟩

end VersionBump.Json
