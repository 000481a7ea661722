import VersionBump.Text.Basic
import VersionBump.Text.CaseTable

/-!
# Letter case

The Unicode case maps of whole texts. A capital sigma at the end of a word has a lower-case form of
its own, so the lower-case form of a character depends on its neighbours.

* `toLower`, `toUpper` are the full case maps.
-/

namespace VersionBump.Text

open CaseTable

/-- The image of `c` under the first run that covers it. -/
def mapByRuns (runs : List Run) (c : Nat) : Option Nat :=
  (runs.find? (·.covers c)).map fun r => (Int.ofNat c + r.offset).toNat

/-- Whether one of the closed ranges holds `c`. -/
def inRanges (ranges : List (Nat × Nat)) (c : Nat) : Bool :=
  ranges.any fun r => r.1 ≤ c && c ≤ r.2

/-- The case form of `c` given by a table of single and a table of several counterparts. -/
def mapChar (runs : List Run) (many : List (Nat × List Nat)) (c : Char) : List Char :=
  match many.lookup c.toNat with
  | some cs => cs.map Char.ofNat
  | none =>
    match mapByRuns runs c.toNat with
    | some d => [Char.ofNat d]
    | none => [c]

/-- The lower-case form of a character that is no sigma at the end of a word. -/
def lowerChar (c : Char) : List Char :=
  if c.toNat < 0x80 then [c.toLower] else mapChar lower lowerMany c

/-- The upper-case form of a character. -/
def upperChar (c : Char) : List Char :=
  if c.toNat < 0x80 then [c.toUpper] else mapChar upper upperMany c

/-- Whether the first character that is not looked through is cased. -/
def startsCased (cs : List Char) : Bool :=
  match cs.dropWhile fun c => inRanges ignored c.toNat with
  | [] => false
  | c :: _ => inRanges cased c.toNat

/-- The lower-case form of a text that follows `before`, which is listed backwards. -/
def lowerFrom (before : List Char) : List Char → List Char
  | [] => []
  | c :: rest =>
    (if c = 'Σ' then
      [if startsCased before && !startsCased rest then 'ς' else 'σ']
    else lowerChar c) ++ lowerFrom (c :: before) rest

/-- The lower-case form of a text. -/
def toLower (s : String) : String := String.ofList (lowerFrom [] s.toList)

/-- The upper-case form of a text. -/
def toUpper (s : String) : String := String.ofList (s.toList.flatMap upperChar)

end VersionBump.Text
