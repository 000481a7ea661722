/-!
# Parts of texts

Cutting texts apart and putting them together, and the digits of numbers.

* `trim` takes off the characters of the class `White_Space` at both ends, `splitAt` cuts a text at
  a character.
* `equalsIgnoreAsciiCase` compares texts up to the case of ASCII letters.
* `ofNat` and `padNat` write a number, `hexValue?` and `ofDigits` read one.
-/

namespace VersionBump.Text

/-- The characters of the class `White_Space`. -/
def isBlank (c : Char) : Bool :=
  let n := c.toNat
  (0x9 ≤ n && n ≤ 0xD) || n == 0x20 || n == 0x85 || n == 0xA0 || n == 0x1680 ||
    (0x2000 ≤ n && n ≤ 0x200A) || n == 0x2028 || n == 0x2029 || n == 0x202F || n == 0x205F ||
    n == 0x3000

/-- The list without the elements at both ends that satisfy `p`. -/
def trimList (p : Char → Bool) (cs : List Char) : List Char :=
  ((cs.dropWhile p).reverse.dropWhile p).reverse

/-- The text without blanks around it. -/
def trim (s : String) : String := String.ofList (trimList isBlank s.toList)

/-- The text without the leading occurrences of `c`. -/
def dropLeading (c : Char) (s : String) : String := String.ofList (s.toList.dropWhile (· == c))

/-- Whether two texts differ at most in the case of ASCII letters. -/
def equalsIgnoreAsciiCase (a b : String) : Bool :=
  a.toList.map Char.toLower == b.toList.map Char.toLower

/-- The text without blanks at its end. -/
def trimEnd (cs : List Char) : List Char := (cs.reverse.dropWhile isBlank).reverse

/-- Whether the text ends with `ending`. -/
def endsWith (s ending : String) : Bool := ending.toList.isSuffixOf s.toList

/-- The text without `ending` at its end, if it is there. -/
def dropEnding (s ending : String) : String :=
  if endsWith s ending then String.ofList (s.toList.take (s.toList.length - ending.toList.length))
  else s

/-- The parts of a list between the occurrences of `c`. -/
def splitList {α : Type} [DecidableEq α] (c : α) : List α → List (List α)
  | [] => [[]]
  | d :: rest =>
    if d = c then [] :: splitList c rest
    else
      match splitList c rest with
      | [] => [[d]]
      | part :: parts => (d :: part) :: parts

/-- The parts of a text between the occurrences of `c`. -/
def splitAt (c : Char) (s : String) : List String := (splitList c s.toList).map String.ofList

/-- The parts with `separator` between them. -/
def joinWith (separator : String) (parts : List String) : String := separator.intercalate parts

/-- The lines, each ended. -/
def lines (ls : List String) : String := String.join (ls.map (· ++ "\n"))

/-- Digits of `n` with zeros in front of them up to `width` places. -/
def padNat (width n : Nat) : String :=
  let digits := Nat.toDigits 10 n
  String.ofList (List.replicate (width - digits.length) '0' ++ digits)

/-- Digits of `n`. -/
def ofNat (n : Nat) : String := String.ofList (Nat.toDigits 10 n)

/-- The value of a hexadecimal digit. -/
def hexValue? (c : Char) : Option Nat :=
  if c.isDigit then some (c.toNat - '0'.toNat)
  else if 'a' ≤ c && c ≤ 'f' then some (c.toNat - 'a'.toNat + 10)
  else if 'A' ≤ c && c ≤ 'F' then some (c.toNat - 'A'.toNat + 10)
  else none

/-- The number that digits of a base stand for, the first digit being the highest. -/
def ofDigits (base : Nat) (digits : List Nat) : Nat := digits.foldl (fun n d => n * base + d) 0

theorem splitList_ne_nil {α : Type} [DecidableEq α] (c : α) (cs : List α) :
    splitList c cs ≠ [] := by
  cases cs with
  | nil => simp [splitList]
  | cons d rest =>
    simp only [splitList]
    split
    · simp
    · split <;> simp

end VersionBump.Text
