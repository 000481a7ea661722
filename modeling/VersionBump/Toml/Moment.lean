import VersionBump.Text.Basic

/-!
# Dates and times of TOML

A moment is a date, a time, or both, and only both together may carry an offset from UTC. Seconds
may be left out, which means none.

* `Moment.read?` accepts the texts that name a moment of the calendar.
* `Moment.text` writes a moment in its normal form.
-/

namespace VersionBump.Toml

/-- A day of the calendar. -/
structure Date where
  year : Nat
  month : Nat
  day : Nat
  deriving DecidableEq, Repr

/-- A time of the day. The fraction of a second is given by its digits, without zeros at the end.
-/
structure Time where
  hour : Nat
  minute : Nat
  second : Nat := 0
  fraction : List Char := []
  deriving DecidableEq, Repr

/-- How far the clock is from UTC. -/
inductive Offset where
  | zero
  | ahead (minutes : Nat)
  | behind (minutes : Nat)
  deriving DecidableEq, Repr

/-- A date, a time, or both. -/
inductive Moment where
  | date (d : Date)
  | time (t : Time)
  | both (d : Date) (t : Time) (offset : Option Offset)
  deriving DecidableEq, Repr

/-- Reads a number of exactly `count` decimal digits. -/
def readDigits? (count : Nat) (cs : List Char) : Option (Nat × List Char) :=
  let digits := cs.take count
  if digits.length = count && digits.all Char.isDigit then
    some (Text.ofDigits 10 (digits.filterMap Text.hexValue?), cs.drop count)
  else none

/-- Reads one character that must be `c`. -/
def readChar? (c : Char) : List Char → Option (List Char)
  | [] => none
  | d :: cs => if d == c then some cs else none

/-- Whether February has 29 days. -/
def isLeapYear (year : Nat) : Bool := (year % 4 == 0 && year % 100 != 0) || year % 400 == 0

/-- The number of days of a month. -/
def daysInMonth (year month : Nat) : Nat :=
  if month == 2 then (if isLeapYear year then 29 else 28)
  else if month == 4 || month == 6 || month == 9 || month == 11 then 30
  else 31

/-- Reads a day of the calendar. -/
def Date.read? (cs : List Char) : Option (Date × List Char) := do
  let (year, cs) ← readDigits? 4 cs
  let cs ← readChar? '-' cs
  let (month, cs) ← readDigits? 2 cs
  let cs ← readChar? '-' cs
  let (day, cs) ← readDigits? 2 cs
  if 1 ≤ month && month ≤ 12 && 1 ≤ day && day ≤ daysInMonth year month then
    some (⟨year, month, day⟩, cs)
  else none

/-- The digits of a fraction of a second as far as they count: nine at most, and no zeros at the
end. -/
def trimFraction (digits : List Char) : List Char :=
  ((digits.take 9).reverse.dropWhile (· == '0')).reverse

/-- Reads the seconds of a time with their fraction, if there are any. The sixtieth is a leap
second. -/
def readSeconds? (cs : List Char) : Option (Nat × List Char × List Char) :=
  match cs with
  | ':' :: cs => do
    let (second, cs) ← readDigits? 2 cs
    if second ≤ 60 then
      match cs with
      | '.' :: cs =>
        let digits := cs.takeWhile Char.isDigit
        if digits.isEmpty then none
        else some (second, trimFraction digits, cs.dropWhile Char.isDigit)
      | cs => some (second, [], cs)
    else none
  | cs => some (0, [], cs)

/-- Reads hours and minutes. -/
def readClock? (cs : List Char) : Option (Nat × Nat × List Char) := do
  let (hour, cs) ← readDigits? 2 cs
  let cs ← readChar? ':' cs
  let (minute, cs) ← readDigits? 2 cs
  if hour ≤ 23 && minute ≤ 59 then some (hour, minute, cs) else none

/-- Reads a time of the day. -/
def Time.read? (cs : List Char) : Option (Time × List Char) := do
  let (hour, minute, cs) ← readClock? cs
  let (second, fraction, cs) ← readSeconds? cs
  return (⟨hour, minute, second, fraction⟩, cs)

/-- Reads an offset that takes the whole rest of the text. -/
def Offset.readAll? : List Char → Option (Option Offset)
  | [] => some none
  | c :: cs =>
    if c == 'Z' || c == 'z' then if cs.isEmpty then some (some .zero) else none
    else if c == '+' || c == '-' then
      match readClock? cs with
      | some (hours, minutes, []) =>
        let total := hours * 60 + minutes
        some (some (if c == '-' then .behind total else .ahead total))
      | _ => none
    else none

/-- Whether a character may stand between a date and a time. -/
def isDateEnd (c : Char) : Bool := c == 'T' || c == 't' || c == ' '

/-- Reads a moment that takes the whole text. -/
def Moment.read? (cs : List Char) : Option Moment :=
  match Date.read? cs with
  | some (d, []) => some (.date d)
  | some (d, c :: cs) =>
    if isDateEnd c then do
      let (t, cs) ← Time.read? cs
      let offset ← Offset.readAll? cs
      return .both d t offset
    else none
  | none =>
    match Time.read? cs with
    | some (t, []) => some (.time t)
    | _ => none

/-! ## Normal forms -/

/-- The text of a day. -/
def Date.text (d : Date) : String :=
  Text.padNat 4 d.year ++ "-" ++ Text.padNat 2 d.month ++ "-" ++ Text.padNat 2 d.day

/-- The text of a number of hours and minutes. -/
def clockText (hour minute : Nat) : String := Text.padNat 2 hour ++ ":" ++ Text.padNat 2 minute

/-- The text of a time of the day. Seconds are always written, a fraction only if it is not zero.
-/
def Time.text (t : Time) : String :=
  clockText t.hour t.minute ++ ":" ++ Text.padNat 2 t.second ++
    if t.fraction.isEmpty then "" else "." ++ String.ofList t.fraction

/-- The text of an offset. No offset is behind by nothing. -/
def Offset.text : Offset → String
  | zero => "Z"
  | ahead m => "+" ++ clockText (m / 60) (m % 60)
  | behind m => (if m = 0 then "+" else "-") ++ clockText (m / 60) (m % 60)

/-- The text of a moment. -/
def Moment.text : Moment → String
  | date d => d.text
  | time t => t.text
  | both d t offset => d.text ++ "T" ++ t.text ++ (offset.map Offset.text).getD ""

end VersionBump.Toml
