import VersionBump.Text.Basic

/-!
# Patterns for paths

A pattern is matched against a whole relative path. A star stands for any characters but slashes,
two stars between slashes for any number of steps.

* `Pattern.ofChars?` reads a pattern, `Pattern.matches` applies it.
-/

namespace VersionBump.Ignore

/-- A part of a pattern. -/
inductive Piece where
  | literal (c : Char)
  | anyChar
  | anyChars
  | oneOf (negated : Bool) (ranges : List (Char × Char))
  | leadingSteps
  | innerSteps
  | trailingSteps
  deriving DecidableEq, Repr

/-- A pattern is a sequence of parts. -/
abbrev Pattern := List Piece

/-! ## Matching -/

/-- What may remain of a text behind a star. -/
def behindChars : List Char → List (List Char)
  | [] => [[]]
  | c :: cs => (c :: cs) :: if c == '/' then [] else behindChars cs

/-- What may remain of a text behind some whole steps. -/
def behindSteps (cs : List Char) : List (List Char) := cs :: behindSlashes cs
where
  /-- What stands behind each slash. -/
  behindSlashes : List Char → List (List Char)
    | [] => []
    | c :: cs => if c == '/' then cs :: behindSlashes cs else behindSlashes cs

/-- The text behind a slash at its start. -/
def behindSlash? : List Char → Option (List Char)
  | [] => none
  | c :: cs => if c == '/' then some cs else none

/-- What may remain of a text behind one part of a pattern. -/
def Piece.behind (p : Piece) (cs : List Char) : List (List Char) :=
  match p with
  | literal c => if cs.head? == some c then [cs.tail] else []
  | anyChar => if cs.head?.any (· != '/') then [cs.tail] else []
  | anyChars => behindChars cs
  | oneOf negated ranges =>
    match cs with
    | [] => []
    | c :: rest =>
      if ranges.any (fun r => r.1 ≤ c && c ≤ r.2) != negated && c != '/' then [rest] else []
  | leadingSteps => behindSteps cs
  | innerSteps => (behindSlash? cs).elim [] behindSteps
  | trailingSteps => (behindSlash? cs).elim [] fun _ => [[]]

/-- Whether the parts of a pattern match a whole text one after the other. -/
def Pattern.matchesParts : Pattern → List Char → Bool
  | [], cs => cs.isEmpty
  | p :: ps, cs => (p.behind cs).any (Pattern.matchesParts ps)

/-- Whether a pattern matches a whole text. Two stars alone match everything. -/
def Pattern.matches (p : Pattern) (cs : List Char) : Bool :=
  p = [.leadingSteps] || p.matchesParts cs

/-! ## Reading -/

/-- Reads the ranges of a class up to its bracket. A bracket at the start is a member. -/
def readRanges? : Bool → List Char → Option (List (Char × Char) × List Char)
  | _, [] => none
  | atStart, c :: cs =>
    if c == ']' && !atStart then some ([], cs)
    else
      match cs with
      | '-' :: d :: rest =>
        -- A minus in front of the closing bracket is a member itself.
        if d == ']' then do
          let (rs, rest) ← readRanges? false ('-' :: d :: rest)
          return ((c, c) :: rs, rest)
        else if d < c then none
        else do
          let (rs, rest) ← readRanges? false rest
          return ((c, d) :: rs, rest)
      | cs => do
        let (rs, rest) ← readRanges? false cs
        return ((c, c) :: rs, rest)
termination_by _ cs => cs.length

/-- Reads a class whose opening bracket is behind. -/
def readClass? (cs : List Char) : Option (Piece × List Char) :=
  match cs with
  | '!' :: cs => (readRanges? true cs).map fun (rs, rest) => (.oneOf true rs, rest)
  | '^' :: cs => (readRanges? true cs).map fun (rs, rest) => (.oneOf true rs, rest)
  | cs => (readRanges? true cs).map fun (rs, rest) => (.oneOf false rs, rest)

/-- Reads the parts behind those read so far, which come last first. Each step uses up a character.
Two stars stand for steps only between slashes or the ends of the pattern. -/
def readPieces? : Nat → List Piece → List Char → Option Pattern
  | 0, back, _ => some back.reverse
  | _ + 1, back, [] => some back.reverse
  | fuel + 1, back, c :: cs =>
    if c == '?' then readPieces? fuel (.anyChar :: back) cs
    else if c == '[' then
      match readClass? cs with
      | some (piece, rest) => readPieces? fuel (piece :: back) rest
      | none => none
    else if c == '\\' then
      match cs with
      | [] => none
      | d :: rest => readPieces? fuel (.literal d :: back) rest
    else if c == '*' then
      match cs with
      | '*' :: rest =>
        match back, rest with
        -- At the start, and up to a slash or the end, two stars are steps.
        | [], [] => readPieces? fuel [.leadingSteps] rest
        | [], '/' :: rest => readPieces? fuel [.leadingSteps] rest
        -- Steps in front of further steps add nothing.
        | .leadingSteps :: _, [] => some back.reverse
        | .leadingSteps :: _, '/' :: rest => readPieces? fuel back rest
        | .innerSteps :: front, [] => some (.trailingSteps :: front).reverse
        | .innerSteps :: _, '/' :: rest => readPieces? fuel back rest
        -- The slash in front of the stars becomes part of the steps.
        | .literal '/' :: front, [] => some (.trailingSteps :: front).reverse
        | .literal '/' :: front, '/' :: rest => readPieces? fuel (.innerSteps :: front) rest
        -- Anywhere else two stars are just two stars.
        | _, _ => readPieces? fuel (.anyChars :: .anyChars :: back) rest
      | cs => readPieces? fuel (.anyChars :: back) cs
    else readPieces? fuel (.literal c :: back) cs

/-- Reads a pattern. -/
def Pattern.ofChars? (cs : List Char) : Option Pattern := readPieces? cs.length [] cs

end VersionBump.Ignore
