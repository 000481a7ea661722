import VersionBump.Text.Basic

/-!
# Numbers of TOML

A numeral is looked at twice. Where it stands, only its form counts; whether it stands for a number
is asked where the number is used. So a form may be admitted that has no value: a base without
digits, letters among the digits of an integer, or a value that is too great.

Digits may be grouped by single underscores between them. Integers in a base other than ten carry
no sign. A decimal number has no leading zeros in front of other digits.

* `Numeral.read?` reads a numeral by its form.
* `Numeral.hasValue` accepts the integers that 128 bits can hold, signed or unsigned, the floats
  whose value is a finite 64-bit number, and the special floats.
-/

namespace VersionBump.Toml

/-! ## Digits -/

/-- Whether a character is a digit of a base that is at most sixteen. -/
def isDigitOf (base : Nat) (c : Char) : Bool := (Text.hexValue? c).any (· < base)

/-- Whether digits go on, one underscore at most in front of each. -/
def goesOn (isDigit : Char → Bool) : List Char → Bool
  | [] => true
  | [c] => isDigit c
  | c :: d :: rest => (isDigit c || (c == '_' && isDigit d)) && goesOn isDigit (d :: rest)

/-- Whether a text consists of grouped digits, at least one. -/
def isGrouped (isDigit : Char → Bool) : List Char → Bool
  | [] => false
  | c :: cs => isDigit c && goesOn isDigit cs

/-- The digits of a text without the underscores that group them. -/
def ungroup (cs : List Char) : List Char := cs.filter (· != '_')

/-- The number that digits stand for. -/
def digitsValue (base : Nat) (digits : List Char) : Nat :=
  Text.ofDigits base (digits.filterMap Text.hexValue?)

/-- Whether a text is a sequence of grouped decimal digits without leading zeros. -/
def isDecimal (cs : List Char) : Bool :=
  isGrouped Char.isDigit cs && (cs.head? != some '0' || cs.length == 1)

/-! ## Signs -/

/-- The sign in front of a number. -/
inductive Sign where
  | plus
  | minus
  deriving DecidableEq, Repr, Inhabited

/-- The sign of a text, if it has one, and the text behind it. -/
def splitSign (cs : List Char) : Option Sign × List Char :=
  match cs with
  | '-' :: rest => (some .minus, rest)
  | '+' :: rest => (some .plus, rest)
  | cs => (none, cs)

/-! ## Floats -/

/-- The parts of a float without its sign. -/
structure FloatParts where
  whole : List Char
  fraction : Option (List Char)
  exponent : Option (List Char)
  deriving DecidableEq, Repr, Inhabited

/-- Whether a character introduces an exponent. -/
def isExponentMark (c : Char) : Bool := c == 'e' || c == 'E'

/-- Whether a character tells a float from an integer. -/
def isFloatMark (c : Char) : Bool := c == '.' || isExponentMark c

/-- Cuts a float at its point and its exponent mark. -/
def FloatParts.split (cs : List Char) : FloatParts :=
  let mantissa := cs.takeWhile fun c => !isExponentMark c
  { whole := mantissa.takeWhile (· != '.')
    fraction := (mantissa.dropWhile (· != '.')).tail?
    exponent := (cs.dropWhile fun c => !isExponentMark c).tail? }

/-- Whether each part that is there is written in digits. -/
def FloatParts.wellFormed (p : FloatParts) : Bool :=
  isDecimal p.whole && p.fraction.all (isGrouped Char.isDigit) &&
    p.exponent.all fun e => isGrouped Char.isDigit (splitSign e).2

/-- Whether `n` times ten to the power of `e` rounds to a finite 64-bit float. The least number
that does not lies half a unit above the greatest float. A number of too many or too few places is
decided by counting them. -/
def isFinite (n : Nat) (e : Int) : Bool :=
  let bound := Nat.pow 2 1024 - Nat.pow 2 970
  let places : Int := (Nat.toDigits 10 n).length + e
  -- Few places are surely finite and many are not; only the margin needs arithmetic.
  if n = 0 || places ≤ 308 then true
  else if places > 310 then false
  else if 0 ≤ e then n * Nat.pow 10 e.toNat < bound
  else n < bound * Nat.pow 10 (-e).toNat

/-- Whether the value of a well-formed float is finite. -/
def FloatParts.isFinite (p : FloatParts) : Bool :=
  let fraction := ungroup (p.fraction.getD [])
  let (sign, places) := splitSign (p.exponent.getD ['0'])
  let shift : Int := digitsValue 10 (ungroup places)
  Toml.isFinite (digitsValue 10 (ungroup p.whole ++ fraction))
    ((if sign = some .minus then -shift else shift) - fraction.length)

/-! ## Numerals -/

/-- A number as it is written, without the underscores in its integers. -/
inductive Numeral where
  | integer (sign : Option Sign) (base : Nat) (digits : List Char)
  | float (parts : FloatParts)
  | special
  deriving DecidableEq, Repr

/-- The base that the letter behind a leading zero stands for. -/
def baseOfLetter? (c : Char) : Option Nat :=
  if c == 'x' then some 16 else if c == 'o' then some 8 else if c == 'b' then some 2 else none

/-- The base that a text says it is written in, and the text behind the letter that says so. -/
def splitBase? : List Char → Option (Nat × List Char)
  | '0' :: c :: rest => (baseOfLetter? c).map (·, rest)
  | _ => none

/-- Whether texts are the groups behind the first underscore of an integer. Each must begin with a
digit of any base, and end with one where another group follows. -/
def areGroups : List (List Char) → Bool
  | [] => true
  | [group] => group.head?.any (isDigitOf 16)
  | group :: rest =>
    group.head?.any (isDigitOf 16) && group.getLast?.any (isDigitOf 16) && areGroups rest

/-- Whether a text without a float mark has the form of a decimal integer. Behind a first group of
decimal digits, the form of the others is not looked at closely. -/
def isInteger (cs : List Char) : Bool :=
  match Text.splitList '_' cs with
  | first :: group :: groups =>
    isDecimal first && first.head? != some '0' && areGroups (group :: groups) && !cs.contains ' '
  | _ => isDecimal cs

/-- Reads a decimal numeral behind its sign. -/
def readDecimal? (sign : Option Sign) (cs : List Char) : Option Numeral :=
  if cs.any isFloatMark then
    let parts := FloatParts.split cs
    if parts.wellFormed then some (.float parts) else none
  else if isInteger cs then some (.integer sign 10 (ungroup cs))
  else none

/-- Reads a numeral that takes the whole text. -/
def Numeral.read? (cs : List Char) : Option Numeral :=
  let (sign, body) := splitSign cs
  if body == "inf".toList || body == "nan".toList then some .special
  else
    match splitBase? body with
    | some (base, digits) =>
      -- There may be no digits at all.
      if sign.isNone && (digits.isEmpty || isGrouped (isDigitOf base) digits) then
        some (.integer none base (ungroup digits))
      else none
    | none => readDecimal? sign body

/-- Whether an integer of a sign fits 128 bits, without a sign bit if it is not negative. -/
def fits128 (sign : Option Sign) (n : Nat) : Bool :=
  if sign = some .minus then n ≤ Nat.pow 2 127 else n < Nat.pow 2 128

/-- Whether a numeral stands for a number that can be used. -/
def Numeral.hasValue : Numeral → Bool
  | integer sign base digits =>
    !digits.isEmpty && digits.all (isDigitOf base) && fits128 sign (digitsValue base digits)
  | float parts => parts.isFinite
  | special => true

end VersionBump.Toml
