import VersionBump.Json.Fault
import VersionBump.Text.Basic

/-!
# Strings and numbers of JSON texts

The tokens of a JSON text that have an inner structure.

* `readString` decodes the rest of a string, `skipString` only finds its end.
* `lexNumber` splits a number off a text.
* `Number.numeric` is the value of a number: a whole number that fits 64 bits, or a float.
-/

namespace VersionBump.Json

/-! ## Strings -/

/-- Reads the four hexadecimal digits of an escape. The text must have four bytes left. -/
def hexEscape (cs : List Char) : Except SyntaxError (Nat × List Char) :=
  -- A text that ends within the digits is told apart from one with other characters there.
  if (String.ofList (cs.take 4)).utf8ByteSize < 4 then .error .stringEnds
  else
    match (cs.take 4).mapM Text.hexValue? with
    | some ds => .ok (Text.ofDigits 16 ds, cs.drop 4)
    | none => .error .invalidEscape

/-- Reads the second half of a surrogate pair, backslash included. -/
def trailingSurrogate (high : Nat) : List Char → Except SyntaxError (Char × List Char)
  | [] => .error .stringEnds
  | c :: cs =>
    if c ≠ '\\' then .error .hexEscapeEnds
    else
      match cs with
      | [] => .error .stringEnds
      | d :: ds =>
        if d ≠ 'u' then .error .hexEscapeEnds
        else do
          let (low, rest) ← hexEscape ds
          if 0xDC00 ≤ low && low ≤ 0xDFFF then
            return (Char.ofNat ((high - 0xD800) * 0x400 + (low - 0xDC00) + 0x10000), rest)
          else .error .loneSurrogate

/-- The character of an escape with a single letter. -/
def shortEscape? (c : Char) : Option Char :=
  if c == '"' then some '"'
  else if c == '\\' then some '\\'
  else if c == '/' then some '/'
  else if c == 'b' then some '\x08'
  else if c == 'f' then some '\x0c'
  else if c == 'n' then some '\n'
  else if c == 'r' then some '\r'
  else if c == 't' then some '\t'
  else none

/-- Reads what follows a backslash. -/
def readEscape : List Char → Except SyntaxError (Char × List Char)
  | [] => .error .stringEnds
  | c :: cs =>
    match shortEscape? c with
    | some e => .ok (e, cs)
    | none =>
      if c ≠ 'u' then .error .invalidEscape
      else do
        let (n, rest) ← hexEscape cs
        -- A second half must not come first.
        if 0xDC00 ≤ n && n ≤ 0xDFFF then .error .loneSurrogate
        else if 0xD800 ≤ n && n ≤ 0xDBFF then trailingSurrogate n rest
        else return (Char.ofNat n, rest)

/-- Skips what follows a backslash. Surrogates need not be paired. -/
def skipEscape : List Char → Except SyntaxError (List Char)
  | [] => .error .stringEnds
  | c :: cs =>
    if (shortEscape? c).isSome then .ok cs
    else if c ≠ 'u' then .error .invalidEscape
    else (hexEscape cs).map (·.2)

/-- Reads a string whose opening quote is behind. Every character takes at least one of the text, so
its length bounds the steps. -/
def readStringFrom : Nat → List Char → Except SyntaxError (List Char × List Char)
  | 0, _ => .error .stringEnds
  | _ + 1, [] => .error .stringEnds
  | fuel + 1, c :: cs =>
    if c == '"' then .ok ([], cs)
    else if c == '\\' then do
      let (d, rest) ← readEscape cs
      let (ds, rest) ← readStringFrom fuel rest
      return (d :: ds, rest)
    else if c.toNat < 0x20 then .error .controlCharacter
    else do
      let (ds, rest) ← readStringFrom fuel cs
      return (c :: ds, rest)

/-- Reads a string whose opening quote is behind, and returns it with the text after it. -/
def readString (cs : List Char) : Except SyntaxError (List Char × List Char) :=
  readStringFrom (cs.length + 1) cs

/-- Skips a string whose opening quote is behind. -/
def skipStringFrom : Nat → List Char → Except SyntaxError (List Char)
  | 0, _ => .error .stringEnds
  | _ + 1, [] => .error .stringEnds
  | fuel + 1, c :: cs =>
    if c == '"' then .ok cs
    else if c == '\\' then do
      let rest ← skipEscape cs
      skipStringFrom fuel rest
    else if c.toNat < 0x20 then .error .controlCharacter
    else skipStringFrom fuel cs

/-- Skips a string whose opening quote is behind, and returns the text after it. -/
def skipString (cs : List Char) : Except SyntaxError (List Char) :=
  skipStringFrom (cs.length + 1) cs

/-! ## Numbers -/

/-- A number as it is written. The exponent is negative if its flag is set. -/
structure Number where
  negative : Bool := false
  whole : List Char
  fraction : Option (List Char) := none
  exponent : Option (Bool × List Char) := none
  deriving DecidableEq, Repr, Inhabited

/-- The fault of a number that stops in front of `rest`. -/
def brokenNumber (rest : List Char) : Fault :=
  ⟨if rest.isEmpty then .valueEnds else .invalidNumber, .invalidNumber⟩

/-- The digits at the start of a text, of which there must be one, and the text after them. -/
def lexDigits (cs : List Char) : Except Fault (List Char × List Char) :=
  let digits := cs.takeWhile Char.isDigit
  if digits.isEmpty then .error (brokenNumber cs) else .ok (digits, cs.dropWhile Char.isDigit)

/-- The sign at the start of an exponent, and the text after it. -/
def lexSign : List Char → Bool × List Char
  | [] => (false, [])
  | c :: cs => if c == '-' then (true, cs) else if c == '+' then (false, cs) else (false, c :: cs)

/-- The fraction at the start of a text. -/
def lexFraction : List Char → Except Fault (Option (List Char) × List Char)
  | [] => .ok (none, [])
  | c :: cs =>
    if c == '.' then do
      let (digits, rest) ← lexDigits cs
      return (some digits, rest)
    else .ok (none, c :: cs)

/-- The exponent at the start of a text. -/
def lexExponent : List Char → Except Fault (Option (Bool × List Char) × List Char)
  | [] => .ok (none, [])
  | c :: cs =>
    if c == 'e' || c == 'E' then do
      let (negative, rest) := lexSign cs
      let (digits, rest) ← lexDigits rest
      return (some (negative, digits), rest)
    else .ok (none, c :: cs)

/-- The number at the start of a text without its sign. A zero in front of another digit is a
fault. -/
def lexUnsigned (negative : Bool) (cs : List Char) : Except Fault (Number × List Char) := do
  let (whole, rest) ← lexDigits cs
  if whole.head? == some '0' && whole.length > 1 then .error (.both .invalidNumber)
  let (fraction, rest) ← lexFraction rest
  let (exponent, rest) ← lexExponent rest
  return (⟨negative, whole, fraction, exponent⟩, rest)

/-- The number at the start of a text that starts with a digit or a minus sign. -/
def lexNumber : List Char → Except Fault (Number × List Char)
  | [] => .error (.both .valueEnds)
  | c :: cs => if c == '-' then lexUnsigned true cs else lexUnsigned false (c :: cs)

/-- The value of a number. -/
inductive Numeric where
  | natural (n : Nat)
  | negative (n : Nat)
  | float (x : Float)

/-- The greatest whole number that is kept exactly. -/
def maxNatural : Nat := 0xFFFFFFFFFFFFFFFF

/-- The value of a list of digits. -/
def digitsValue (digits : List Char) : Nat :=
  digits.foldl (fun n d => n * 10 + (d.toNat - '0'.toNat)) 0

/-- The digits in front of the first one that would make a number too great, appended to a number.
The rest of the digits is returned too. -/
def significant (start : Nat) : List Char → Nat × List Char
  | [] => (start, [])
  | d :: ds =>
    let next := start * 10 + (d.toNat - '0'.toNat)
    if maxNatural < next then (start, d :: ds) else significant next ds

/-- The float `x · 10 ^ e`, or nothing beyond the range of floats. Powers beyond the greatest finite
one are applied in several steps; after four of them nothing is left of any number. -/
def scale : Nat → Float → Int → Option Float
  | 0, x, _ => some x
  | steps + 1, x, e =>
    if e.natAbs ≤ 308 then
      let power := Float.ofScientific 1 false e.natAbs
      -- Multiplication may overflow, division at most loses digits.
      if 0 ≤ e then
        if (x * power).isInf then none else some (x * power)
      else some (x / power)
    -- Zero stays zero under any power.
    else if x == 0 then some x
    else if 0 ≤ e then none
    else scale steps (x / Float.ofScientific 1 false 308) (e + 308)

/-- The greatest exponent that is read. -/
def maxExponent : Nat := 0x7FFFFFFF

/-- The size of a number as a float, or nothing if it is out of range. -/
def Number.magnitude? (n : Number) : Option Float :=
  let (whole, dropped) := significant 0 n.whole
  let fraction := n.fraction.getD []
  -- Digits that are dropped in front of the point still count as places, those behind it do not.
  let (digits, unused) := significant whole fraction
  let shift : Int := (dropped.length : Int) - ((fraction.length : Int) - (unused.length : Int))
  let x := Float.ofScientific digits false 0
  match n.exponent with
  | none => scale 5 x shift
  | some (negative, places) =>
    let e := digitsValue places
    -- An exponent that is too great to be read decides by its sign alone.
    if maxExponent < e then (if digits = 0 || negative then some 0 else none)
    else scale 5 x (if negative then shift - e else shift + e)

/-- The value of a number. Whole numbers that do not fit 64 bits are floats, and so is `-0`. -/
def Number.numeric (n : Number) : Except SyntaxError Numeric :=
  let size := digitsValue n.whole
  let float : Except SyntaxError Numeric :=
    match n.magnitude? with
    | none => .error .numberOutOfRange
    | some x => .ok (.float (if n.negative then -x else x))
  if n.fraction.isSome || n.exponent.isSome || maxNatural < size then float
  else if !n.negative then .ok (.natural size)
  else if size = 0 || 0x8000000000000000 < size then float
  else .ok (.negative size)

end VersionBump.Json
