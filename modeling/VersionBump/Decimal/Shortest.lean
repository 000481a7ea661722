/-!
# Shortest decimals

A binary floating-point number is written with the fewest decimal digits that read back as the same
number, and among those with the digits nearest to it. The search works on exact fractions: for one
digit, two digits and so on it looks at the two neighbours of the number on the grid of that many
digits, and the first grid with a neighbour in the rounding interval wins.

* `Decimal.shortest` finds the digits.
* `Decimal.floatText` writes them, positionally for exponents from -5 to 15.
-/

namespace VersionBump.Decimal

/-- The number `digits · 10 ^ exponent`. -/
structure Scaled where
  digits : Nat
  exponent : Int
  deriving DecidableEq, Repr, Inhabited

/-- A positive fraction. -/
structure Fraction where
  num : Nat
  den : Nat
  deriving DecidableEq, Repr, Inhabited

/-- The fraction `m · 2 ^ q`. -/
def Fraction.ofBinary (m : Nat) (q : Int) : Fraction :=
  ⟨m * Nat.pow 2 q.toNat, Nat.pow 2 (-q).toNat⟩

/-- The fraction `d · 10 ^ e`. -/
def Fraction.ofScaled (d : Nat) (e : Int) : Fraction :=
  ⟨d * Nat.pow 10 e.toNat, Nat.pow 10 (-e).toNat⟩

/-- Whether `a < b`. -/
def Fraction.lt (a b : Fraction) : Bool := a.num * b.den < b.num * a.den

/-- Whether `a ≤ b`. -/
def Fraction.le (a b : Fraction) : Bool := a.num * b.den ≤ b.num * a.den

/-- The difference of two fractions, whichever is greater. -/
def Fraction.distance (a b : Fraction) : Fraction :=
  ⟨a.num * b.den - b.num * a.den + (b.num * a.den - a.num * b.den), a.den * b.den⟩

/-- The fractions that round to a number. The ends belong to it if `closed`. -/
structure Interval where
  low : Fraction
  high : Fraction
  closed : Bool

/-- Whether a fraction lies in the interval. -/
def Interval.holds (i : Interval) (x : Fraction) : Bool :=
  if i.closed then i.low.le x && x.le i.high else i.low.lt x && x.lt i.high

/-- The exponent of the leading digit of a fraction below `10 ^ start`, at least `start - steps`. -/
def leadingExponent (x : Fraction) : Nat → Int → Int
  | 0, start => start
  | steps + 1, start =>
    if (Fraction.ofScaled 1 start).le x then start else leadingExponent x steps (start - 1)

/-- The better of the two neighbours of `x` on the grid `10 ^ e`, if one lies in the interval. Of
two the nearer is taken, and of two equally near ones the even one. -/
def onGrid? (i : Interval) (x : Fraction) (e : Int) : Option Scaled :=
  let down := x.num * Nat.pow 10 (-e).toNat / (x.den * Nat.pow 10 e.toNat)
  let up := down + 1
  let value (d : Nat) := Fraction.ofScaled d e
  match i.holds (value down), i.holds (value up) with
  | true, false => some ⟨down, e⟩
  | false, true => some ⟨up, e⟩
  | false, false => none
  | true, true =>
    let below := x.distance (value down)
    let above := x.distance (value up)
    if below.lt above || (!above.lt below && down % 2 == 0) then some ⟨down, e⟩
    else some ⟨up, e⟩

/-- Searches the grids from `e` on downwards. -/
def searchGrids (i : Interval) (x : Fraction) : Nat → Int → Option Scaled
  | 0, _ => none
  | steps + 1, e => (onGrid? i x e).orElse fun _ => searchGrids i x steps (e - 1)

/-- The digits without trailing zeros. -/
def Scaled.trim : Nat → Scaled → Scaled
  | 0, s => s
  | steps + 1, s =>
    if s.digits ≠ 0 && s.digits % 10 == 0 then Scaled.trim steps ⟨s.digits / 10, s.exponent + 1⟩
    else s

/-- The shortest decimal of the number `m · 2 ^ q`. The gap below it is half as wide as the one
above if `narrow`. -/
def shortest (m : Nat) (q : Int) (narrow : Bool) : Scaled :=
  let x := Fraction.ofBinary m q
  let i : Interval :=
    { low :=
        if narrow then Fraction.ofBinary (4 * m - 1) (q - 2)
        else Fraction.ofBinary (2 * m - 1) (q - 1)
      high := Fraction.ofBinary (2 * m + 1) (q - 1)
      closed := m % 2 == 0 }
  let e := leadingExponent x 640 309
  ((searchGrids i x 17 e).getD ⟨m, q⟩).trim 20

/-- The digits of a scaled number in positional notation, with at least one place behind the point.
-/
def positional (digits : List Char) (point : Int) : List Char :=
  let n : Int := digits.length
  if n ≤ point then digits ++ List.replicate (point - n).toNat '0' ++ ['.', '0']
  else if 0 < point then digits.take point.toNat ++ ['.'] ++ digits.drop point.toNat
  else ['0', '.'] ++ List.replicate (-point).toNat '0' ++ digits

/-- The digits of a scaled number with one digit in front of the point and an exponent. -/
def scientific (digits : List Char) (exponent : Int) : List Char :=
  digits.take 1 ++ (if digits.length > 1 then '.' :: digits.drop 1 else []) ++
    ['e', if exponent < 0 then '-' else '+'] ++ Nat.toDigits 10 exponent.natAbs

/-- The text of a scaled number: positional if the exponent of the leading digit is at least -5 and
at most 15. -/
def Scaled.text (s : Scaled) : List Char :=
  let digits := Nat.toDigits 10 s.digits
  let point : Int := digits.length + s.exponent
  if -4 ≤ point && point ≤ 16 then positional digits point else scientific digits (point - 1)

/-- The text of a finite floating-point number. -/
def floatText (x : Float) : String :=
  let bits := x.toBits.toNat
  let sign : List Char := if bits / 0x8000000000000000 == 1 then ['-'] else []
  let biased : Nat := bits / 0x10000000000000 % 0x800
  let fraction : Nat := bits % 0x10000000000000
  let body : List Char :=
    if biased == 0 && fraction == 0 then ['0', '.', '0']
    else if biased == 0 then (shortest fraction (-1074) false).text
    else
      (shortest (0x10000000000000 + fraction) ((biased : Int) - 1075)
        (fraction == 0 && biased > 1)).text
  String.ofList (sign ++ body)

end VersionBump.Decimal
