import VersionBump.Commands

/-!
# The program

Reads what a command needs to know of the file system, carries the command out and prints what it
has to say. All decisions are made by `Commands.start`.
-/

namespace VersionBump.Main

open CommandLine

/-- The place of an absolute path. -/
def placeOf (path : String) : Place := (Text.splitAt '/' path).filter (· != "")

/-- The complaint about an operation on files. -/
def reasonOf : IO.Error → String
  | .noFileOrDirectory .. => PathError.missing.message
  | .inappropriateType _ 20 _ => PathError.notDirectory.message
  | .inappropriateType _ 21 _ => PathError.isDirectory.message
  | e => toString e

/-- The content of a file, or the reason why it cannot be read. -/
def contentOf (path : String) : IO (Except String ByteArray) := do
  try return .ok (← IO.FS.readBinFile path) catch e => return .error (reasonOf e)

/-- The path without symbolic links, if it leads to something. -/
def canonical? (path : String) : IO (Option String) := do
  try return some (← IO.FS.realPath path).toString catch _ => return none

/-- The tree with the file at a path, if there is one. -/
def addFile (t : FileTree) (path : String) : IO FileTree := do
  if (← canonical? path).isNone then return t
  else return t.addFile (placeOf path) (← contentOf path)

/-- The tree with the traces of a repository in a directory, if it is one. -/
def addRepository (t : FileTree) (dir : String) : IO FileTree := do
  let path := dir ++ "/.git"
  if (← canonical? path).isNone then return t
  else addFile (t.addDirectory (placeOf path)) (path ++ "/info/exclude")

/-- The tree with all that lies at a canonical path and below it, linked directories apart. -/
partial def addAll (t : FileTree) (path : String) : IO FileTree := do
  match ← canonical? path with
  | none => return t
  | some found =>
    let here ← IO.FS.realPath path
    if !(← here.isDir) then addFile t path
    else if found ≠ path then return t
    else
      let mut t ← addRepository (t.addDirectory (placeOf path)) path
      for entry in ← here.readDir do
        if entry.fileName ≠ ".git" then
          t ← addAll t (path ++ "/" ++ entry.fileName)
      return t

/-- The tree with the ignore files of the directories above a place. -/
def addRulesAbove (t : FileTree) (place : Place) : IO FileTree := do
  let mut t := t
  for dir in FileTree.above place do
    let path := dir.foldl (· ++ "/" ++ ·) ""
    t ← addRepository t path
    for name in [".ignore", ".gitignore"] do
      t ← addFile t (path ++ "/" ++ name)
  return t

/-- The tree with a side of a comparison. -/
def addSide (t : FileTree) (path : Path) : IO (FileTree × Path) := do
  match ← canonical? path.text with
  | none => return (t, path)
  | some found => return (← addRulesAbove (← addAll t found) (placeOf found), ⟨found⟩)

/-- The tree with the configuration file of a directory. -/
def addConfig (t : FileTree) (dir : Path) : IO (FileTree × Path) := do
  match ← canonical? dir.text with
  | none => return (t, dir)
  | some found => return (← addFile t (found ++ "/" ++ Config.fileName), ⟨found⟩)

/-- What a command needs to know of the file system, and the command with canonical paths to read
from. -/
def gather (t : FileTree) : Command → IO (FileTree × Command)
  | .compare before after allowed format output contexts => do
    let (t, before) ← addSide t before
    let (t, after) ← addSide t after
    return (t, .compare before after allowed format output contexts)
  | .codes format config => do
    match config with
    | none => return (t, .codes format none)
    | some dir =>
      let (t, dir) ← addConfig t dir
      return (t, .codes format (some dir))
  | .init dir => do
    let file := dir.join ⟨Config.fileName⟩
    if (← canonical? file.text).isSome then
      let cwd := placeOf (← IO.currentDir).toString
      return (t.addFile (Place.follow cwd file) (.ok ByteArray.empty), .init dir)
    else return (t, .init dir)

/-- Prints how a command has ended. -/
def finish (o : Outcome) : IO UInt32 := do
  IO.print o.printed
  for line in o.remarks do
    IO.eprintln line
  return UInt32.ofNat o.exit

/-- Carries out an invocation. -/
def carryOut (c : Command) : IO UInt32 := do
  let cwd := placeOf (← IO.currentDir).toString
  let (t, c) ← gather ((∅ : FileTree).addDirectory cwd) c
  match Commands.start t cwd c with
  | .done o => finish o
  | .write path text next => do
    let written ← try
        IO.FS.writeFile path.text text
        pure (Except.ok ())
      catch e => pure (Except.error (reasonOf e))
    finish (next written)

end VersionBump.Main

/-- Runs the program. -/
def main (args : List String) : IO UInt32 :=
  match VersionBump.CommandLine.Invocation.read args with
  | .ok invocation => VersionBump.Main.carryOut invocation.command
  | .error e => VersionBump.Main.finish (VersionBump.Commands.reject e)
