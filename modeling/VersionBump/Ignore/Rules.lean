import VersionBump.Ignore.Pattern
import VersionBump.Text.Utf8

/-!
# Rules of ignore files

An ignore file holds a pattern a line. A pattern without a slash inside applies at any depth, one
with a slash only from the directory of the file; a slash at the end restricts it to directories,
and an exclamation mark in front takes files back in. Of the rules that apply to a path the last
one counts.

* `Rules.ofFile` reads an ignore file, `Rules.verdict?` applies it to a path.
-/

namespace VersionBump.Ignore

/-- What a rule says about the paths it applies to. -/
inductive Verdict where
  | ignored
  | kept
  deriving DecidableEq, Repr

/-- A rule of an ignore file. -/
structure Rule where
  pattern : Pattern
  verdict : Verdict
  directoriesOnly : Bool
  deriving DecidableEq, Repr

/-- The rules of an ignore file in the order of its lines. -/
abbrev Rules := List Rule

/-- Whether a rule applies to a path, given relative to the directory of its file. -/
def Rule.applies (r : Rule) (path : List String) (isDirectory : Bool) : Bool :=
  (isDirectory || !r.directoriesOnly) && r.pattern.matches (Text.joinWith "/" path).toList

/-- What the rules say about a path, if one of them applies. -/
def Rules.verdict? (rules : Rules) (path : List String) (isDirectory : Bool) : Option Verdict :=
  (rules.reverse.find? fun r => r.applies path isDirectory).map (·.verdict)

/-! ## Reading -/

/-- A line without the blanks at its end, unless a backslash protects the last one. -/
def trimLine (line : List Char) : List Char :=
  if ['\\', ' '].isSuffixOf line then line else Text.trimEnd line

/-- A pattern that applies at any depth begins with any number of steps, and one that ends in two
stars is about what lies inside a directory. -/
def completeGlob (glob : List Char) (anchored : Bool) : List Char :=
  let anywhere := ['*', '*', '/']
  let glob :=
    if anchored || glob.contains '/' || glob = ['*', '*'] then glob else anywhere ++ glob
  if ['/', '*', '*'].isSuffixOf glob then glob ++ ['/', '*'] else glob

/-- Reads the pattern of a rule, behind its exclamation mark. -/
def Rule.ofGlob? (verdict : Verdict) (anchored : Bool) (glob : List Char) : Option Rule :=
  let directoriesOnly := glob.getLast? == some '/'
  let glob := if directoriesOnly then glob.dropLast else glob
  let glob := if directoriesOnly && glob.getLast? == some '\\' then glob.dropLast else glob
  (Pattern.ofChars? (completeGlob glob anchored)).map (⟨·, verdict, directoriesOnly⟩)

/-- Reads the pattern of a rule, which a slash in front ties to the directory of the file. -/
def Rule.ofRooted? (verdict : Verdict) (cs : List Char) : Option Rule :=
  match cs with
  | '/' :: glob => Rule.ofGlob? verdict true glob
  | glob => Rule.ofGlob? verdict false glob

/-- Reads a rule. Blank lines, comments and broken patterns are no rules. -/
def Rule.ofLine? (line : List Char) : Option Rule :=
  if line.head? == some '#' then none
  else
    match trimLine line with
    | [] => none
    -- A backslash takes the meaning from what follows it.
    | '\\' :: '!' :: cs => Rule.ofGlob? .ignored false ('!' :: cs)
    | '\\' :: '#' :: cs => Rule.ofGlob? .ignored false ('#' :: cs)
    | '!' :: cs => Rule.ofRooted? .kept cs
    | cs => Rule.ofRooted? .ignored cs

/-- The lines of a file as far as they are well-formed texts. -/
def readableLines (bytes : ByteArray) : List String :=
  let lines := (Text.splitList 0x0A bytes.toList).map fun l => Text.Utf8.decode? ⟨l.toArray⟩
  (lines.takeWhile Option.isSome).filterMap id

/-- A line without a carriage return at its end. -/
def dropReturn (line : List Char) : List Char :=
  if line.getLast? == some '\r' then line.dropLast else line

/-- Reads an ignore file. A byte order mark in front does not count. -/
def Rules.ofFile (bytes : ByteArray) : Rules :=
  match (readableLines bytes).map (dropReturn ·.toList) with
  | [] => []
  | first :: rest => (first.dropWhile (· == '\uFEFF') :: rest).filterMap Rule.ofLine?

end VersionBump.Ignore
