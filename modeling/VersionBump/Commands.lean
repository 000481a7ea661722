import VersionBump.Check
import VersionBump.CommandLine

/-!
# Commands

What the commands of the program do with a file system: what they print, what they write and how
they end. A command writes one file at most, and how it ends depends on whether that works; so a
command comes to an end by itself or asks for a file to be written.

* `Command.start` is the part of a command in front of the writing.
* `Command.run` carries out a command on a file tree.
-/

namespace VersionBump

open CommandLine Render

/-- How a command ends: the exit code, the text it prints, and its complaints and hints by line. -/
structure Outcome where
  exit : Nat
  printed : String := ""
  remarks : List String := []
  deriving DecidableEq, Repr

namespace Outcome

/-- The exit code for a bump above the allowed level. -/
def levelExceeded : Nat := 2

/-- The line of a complaint. -/
def complaint (text : String) : String := "error: " ++ text

/-- The line of a hint. -/
def hint (text : String) : String := "hint: " ++ text

/-- The line of a success. -/
def success (text : String) : String := "✓ " ++ text ++ "\n"

/-- The end of a command that fails. -/
def failure (text : String) : Outcome := { exit := 1, remarks := [complaint text] }

end Outcome

/-- A command on its way: it has ended, or it goes on when a file has been written, or not. -/
inductive Step where
  | done (o : Outcome)
  | write (path : Path) (text : String) (next : Except String Unit → Outcome)

/-- The end of a comparison. -/
def Checked.outcome (c : Checked) (printed : String) : Outcome :=
  if c.accepted then { exit := 0, printed }
  else
    { exit := Outcome.levelExceeded
      printed
      remarks :=
        [Outcome.complaint ("Suggested bump " ++ c.assessment.level.name ++
          " exceeds the allowed level " ++ c.allowed.name),
         Outcome.hint "Raise allowed_level in .semvercheck.toml or pass --allowed-level"] }

/-- Goes on with the result of a check: it is printed or written to a file. -/
def Checked.deliver (c : Checked) (format : Format) : Option Path → Step
  | none => .done (c.outcome (format.assessment c.assessment (some c.allowed)))
  | some path =>
    .write path (format.assessment c.assessment (some c.allowed)) fun
      | .error reason => .failure ("Failed to write output: " ++ reason)
      | .ok () => c.outcome (Outcome.success
          ("Suggested bump " ++ c.assessment.level.name ++ " written to " ++ path.text))

namespace Commands

/-- Compares two directories. -/
def compare (t : FileTree) (cwd : Place) (before after : Path) (options : CheckOptions)
    (format : Format) (output : Option Path) : Step :=
  match check t cwd before after options with
  | .error e => .done (.failure e.message)
  | .ok checked => checked.deliver format output

/-- Lists the rules, with the levels that the configuration of a directory gives them. -/
def codes (t : FileTree) (cwd : Place) (format : Format) (config : Option Path) : Outcome :=
  match (config.map (Config.load t cwd)).getD (.ok {}) with
  | .error e => .failure ("Failed to load config: " ++ e.message)
  | .ok c => { exit := 0, printed := format.codes c.table.catalogue }

/-- Writes a configuration to start from, unless there is one already. -/
def init (t : FileTree) (cwd : Place) (dir : Path) : Step :=
  let file := dir.join ⟨Config.fileName⟩
  if t.leads cwd file then .done (.failure (Config.fileName ++ " already exists at " ++ file.text))
  else
    .write file Config.template fun
      | .error reason => .failure ("Failed to write config file: " ++ reason)
      | .ok () =>
        { exit := 0
          printed := Outcome.success ("Created " ++ Config.fileName ++ " at " ++ file.text) }

/-- A command up to the writing of its file. -/
def start (t : FileTree) (cwd : Place) : Command → Step
  | .compare before after allowed format output contexts =>
    compare t cwd before after { allowed, families := contexts.getD [] } format output
  | .codes format config => .done (codes t cwd format config)
  | .init path => init t cwd path

/-- The line on the version of the program. -/
def versionLine : String := "semvercheck 1.0.0\n"

/-- How the arguments are to be given. -/
def usage : String :=
  Text.lines
    ["Compute the semantic version bump between two codebase snapshots",
     "",
     "Usage: semvercheck [OPTIONS] <COMMAND>",
     "",
     "Commands:",
     "  compare  Compare two snapshot directories and suggest a version bump",
     "  codes    List every change code with its default level",
     "  init     Generate a starter .semvercheck.toml configuration file"]

/-- The end of the program where the arguments are no invocation. -/
def reject : ArgumentError → Outcome
  | .helpRequested => { exit := 0, printed := usage }
  | .versionRequested => { exit := 0, printed := versionLine }
  | .nothingGiven => { exit := 2 }
  | _ => { exit := 2, remarks := [Outcome.complaint "invalid arguments, see --help"] }

/-- Carries out a command. -/
def run (t : FileTree) (cwd : Place) (c : Command) : Outcome × FileTree :=
  match start t cwd c with
  | .done o => (o, t)
  | .write path text next =>
    match t.write cwd path text.toUTF8 with
    | .error e => (next (.error e.message), t)
    | .ok t => (next (.ok ()), t)

end Commands

end VersionBump
