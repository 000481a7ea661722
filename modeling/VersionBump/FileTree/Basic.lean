import VersionBump.KeyMap.Basic
import VersionBump.Path

/-!
# File trees

What a file system holds, as a value. A place is the list of names that leads to it from the root;
the root is the empty list and is always a directory.

* `FileTree.find?` looks at a place, `FileTree.addFile` and `FileTree.addDirectory` change a tree.
* `FileTree.locate` follows a path from a working directory.
* `FileTree.read` and `FileTree.write` are the operations on files that can fail.
-/

namespace VersionBump

/-- The names that lead to a place from the root. -/
abbrev Place := List String

/-- The absolute path of a place. -/
def Place.path (place : Place) : Path := ⟨"/" ++ Text.joinWith "/" place⟩

/-- The place one step away. The root has nothing above it. -/
def Place.enter (place : Place) : PathComponent → Place
  | .root => []
  | .here => place
  | .parent => place.dropLast
  | .name n => place ++ [n]

/-- The place that a path leads to if all that is passed are directories. -/
def Place.follow (cwd : Place) (p : Path) : Place := p.components.foldl Place.enter cwd

/-- What stands at a place: a file with its content, or the reason why it cannot be read, or a
directory. -/
inductive Entry where
  | file (content : Except String ByteArray)
  | directory

/-- A file system below its root. -/
structure FileTree where
  entries : KeyMap Place Entry := ∅

/-- Why a path leads nowhere, or to the wrong kind of entry. -/
inductive PathError where
  | missing
  | notDirectory
  | isDirectory
  deriving DecidableEq, Repr

/-- The complaint about a path. -/
def PathError.message : PathError → String
  | missing => "No such file or directory (os error 2)"
  | notDirectory => "Not a directory (os error 20)"
  | isDirectory => "Is a directory (os error 21)"

namespace FileTree

instance : EmptyCollection FileTree := ⟨{}⟩

instance : Inhabited FileTree := ⟨∅⟩

/-- What stands at a place. -/
def find? (t : FileTree) (place : Place) : Option Entry :=
  if place.isEmpty then some .directory else t.entries.find? place

/-- Whether a directory stands at a place. -/
def isDirectory (t : FileTree) (place : Place) : Bool :=
  match t.find? place with
  | some .directory => true
  | _ => false

/-- The tree with a directory, and all directories above it. What is there stays. -/
def addDirectory (t : FileTree) (place : Place) : FileTree :=
  { entries := (List.range place.length).foldl
      (fun es k => es.insertIfNew (place.take (k + 1)) .directory) t.entries }

/-- The tree with a file, and all directories above it. -/
def addFile (t : FileTree) (place : Place) (content : Except String ByteArray) : FileTree :=
  { entries := (t.addDirectory place.dropLast).entries.insert place (.file content) }

/-! ## Paths -/

/-- Goes one step from a place. Only a directory can be left. -/
def step (t : FileTree) (place : Place) (c : PathComponent) : Except PathError Place :=
  match t.find? place with
  | none => .error .missing
  | some (.file _) => .error .notDirectory
  | some .directory => .ok (place.enter c)

/-- The place that a path leads to from a working directory. Nothing need stand there, but all that
is passed must be directories. -/
def locate (t : FileTree) (cwd : Place) (p : Path) : Except PathError Place :=
  if p.text = "" then .error .missing else p.components.foldlM t.step cwd

/-- Whether a path can only name a directory: it ends in a slash or a dot. -/
def namesDirectory (p : Path) : Bool :=
  match (Text.splitAt '/' p.text).getLast? with
  | some last => last = "" || last = "."
  | none => false

/-- The place that a path leads to from a working directory, where something must stand. -/
def resolve (t : FileTree) (cwd : Place) (p : Path) : Except PathError Place := do
  let place ← t.locate cwd p
  match t.find? place with
  | none => .error .missing
  | some .directory => return place
  -- A slash at the end asks for a directory.
  | some (.file _) => if namesDirectory p then .error .notDirectory else return place

/-- Whether a path leads to something. -/
def leads (t : FileTree) (cwd : Place) (p : Path) : Bool := (t.resolve cwd p).toBool

/-- The content of the file that a path leads to. -/
def read (t : FileTree) (cwd : Place) (p : Path) : Except String ByteArray :=
  match t.resolve cwd p with
  | .error e => .error e.message
  | .ok place =>
    match t.find? place with
    | some (.file content) => content
    | _ => .error PathError.isDirectory.message

/-- The tree with a file under a path, in place of any file that is there. Its directory must be
there already. -/
def write (t : FileTree) (cwd : Place) (p : Path) (content : ByteArray) :
    Except PathError FileTree := do
  let place ← t.locate cwd p
  match t.find? place with
  | some .directory => .error .isDirectory
  | some (.file _) =>
    if namesDirectory p then .error .notDirectory else return t.addFile place (.ok content)
  | none =>
    -- A new file cannot have the name of a directory.
    if namesDirectory p then .error .isDirectory else return t.addFile place (.ok content)

end FileTree

end VersionBump
