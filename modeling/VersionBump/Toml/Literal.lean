import VersionBump.Text.Basic

/-!
# Strings of TOML

A string stands between double quotes, where a backslash starts an escape, or between single quotes,
where nothing is special. Three quotes delimit a string of several lines; a line end right behind
them does not count, and up to two further quotes may stand before the closing ones.

* `readLine?` and `readQuoted?` read a string together with its quotes.
-/

namespace VersionBump.Toml

/-- Whether a character may stand in a string or a comment: no control character but the tab. -/
def isPlain (c : Char) : Bool := c == '\t' || (' ' ≤ c && c != '\x7f')

/-- Whether a character is a blank within a line. -/
def isSpace (c : Char) : Bool := c == ' ' || c == '\t'

/-- The text without blanks in front. -/
def skipSpace (cs : List Char) : List Char := cs.dropWhile isSpace

/-- A line end: a line feed, with or without a carriage return in front of it. -/
def readLineEnd? : List Char → Option (List Char × List Char)
  | '\n' :: cs => some (['\n'], cs)
  | '\r' :: '\n' :: cs => some (['\r', '\n'], cs)
  | _ => none

/-- Skips blanks and line ends. Each step uses up a character. -/
def skipBlankLines : Nat → List Char → List Char
  | 0, cs => cs
  | fuel + 1, cs =>
    match readLineEnd? (skipSpace cs) with
    | some (_, cs) => skipBlankLines fuel cs
    | none => skipSpace cs

/-- The character of an escape with a single letter. -/
def shortEscape? (c : Char) : Option Char :=
  if c == '"' then some '"'
  else if c == '\\' then some '\\'
  else if c == 'b' then some '\x08'
  else if c == 'e' then some '\x1b'
  else if c == 'f' then some '\x0c'
  else if c == 'n' then some '\n'
  else if c == 'r' then some '\r'
  else if c == 't' then some '\t'
  else none

/-- The number of hexadecimal digits behind a letter that introduces a code point. -/
def codeLength? (c : Char) : Option Nat :=
  if c == 'x' then some 2 else if c == 'u' then some 4 else if c == 'U' then some 8 else none

/-- Reads a character that is given by its code point. -/
def readCode? (count : Nat) (cs : List Char) : Option (Char × List Char) := do
  let digits ← (cs.take count).mapM Text.hexValue?
  let n := Text.ofDigits 16 digits
  if digits.length = count && n.isValidChar then some (Char.ofNat n, cs.drop count) else none

/-- Reads what follows a backslash. -/
def readEscape? : List Char → Option (Char × List Char)
  | [] => none
  | c :: cs =>
    match shortEscape? c with
    | some e => some (e, cs)
    | none => do readCode? (← codeLength? c) cs

/-- Reads the rest of a string of one line with escapes. Each step uses up a character. -/
def readBasic? : Nat → List Char → Option (List Char × List Char)
  | 0, _ => none
  | _ + 1, [] => none
  | fuel + 1, c :: cs =>
    if c == '"' then some ([], cs)
    else if c == '\\' then do
      let (d, rest) ← readEscape? cs
      let (ds, rest) ← readBasic? fuel rest
      return (d :: ds, rest)
    else if isPlain c then do
      let (ds, rest) ← readBasic? fuel cs
      return (c :: ds, rest)
    else none

/-- Reads the rest of a string of one line without escapes. -/
def readRaw? : List Char → Option (List Char × List Char)
  | [] => none
  | c :: cs =>
    if c == '\'' then some ([], cs)
    else if isPlain c then do
      let (ds, rest) ← readRaw? cs
      return (c :: ds, rest)
    else none

/-- Reads a string of one line. -/
def readLine? : List Char → Option (String × List Char)
  | '"' :: cs => do
    let (s, rest) ← readBasic? (cs.length + 1) cs
    return (String.ofList s, rest)
  | '\'' :: cs => do
    let (s, rest) ← readRaw? cs
    return (String.ofList s, rest)
  | _ => none

/-- Closes a string of several lines where a run of quotes starts. The answer holds the quotes that
belong to the string. -/
def closing? (quote : Char) (cs : List Char) : Option (List Char × List Char) :=
  let run := cs.takeWhile (· == quote)
  if run.length < 3 then none
  else
    -- The last three quotes of a run close the string; at most two may stand before them.
    let kept := min (run.length - 3) 2
    some (List.replicate kept quote, cs.drop (kept + 3))

/-- Skips a line end that a backslash hides, with all blanks and line ends behind it. -/
def skipHiddenEnd? (cs : List Char) : Option (List Char) := do
  let (_, rest) ← readLineEnd? (skipSpace cs)
  return skipBlankLines rest.length rest

/-- Reads the rest of a string of several lines, `escapes` being whether a backslash is special.
Each step uses up a character. -/
def readLines? (quote : Char) (escapes : Bool) : Nat → List Char → Option (List Char × List Char)
  | 0, _ => none
  | _ + 1, [] => none
  | fuel + 1, c :: cs =>
    let onward (front rest : List Char) : Option (List Char × List Char) :=
      (readLines? quote escapes fuel rest).map fun (ds, rest) => (front ++ ds, rest)
    match closing? quote (c :: cs) with
    | some closed => some closed
    | none =>
      if escapes && c == '\\' then
        -- A backslash at the end of a line joins it with the next line that has text.
        match skipHiddenEnd? cs with
        | some rest => onward [] rest
        | none => do
          let (d, rest) ← readEscape? cs
          onward [d] rest
      else
        match readLineEnd? (c :: cs) with
        | some (front, rest) => onward front rest
        | none => if isPlain c then onward [c] cs else none

/-- Reads a string of one or several lines. -/
def readQuoted? (cs : List Char) : Option (String × List Char) :=
  let several (quote : Char) (escapes : Bool) (cs : List Char) : Option (String × List Char) := do
    -- A line end right behind the opening quotes is for the eye only.
    let cs := (readLineEnd? cs).elim cs (·.2)
    let (s, rest) ← readLines? quote escapes (cs.length + 1) cs
    return (String.ofList s, rest)
  match cs with
  | '"' :: '"' :: '"' :: cs => several '"' true cs
  | '\'' :: '\'' :: '\'' :: cs => several '\'' false cs
  | cs => readLine? cs

end VersionBump.Toml
