import VersionBump.FileTree.Basic
import VersionBump.Ignore.Rules
import VersionBump.Snapshot

/-!
# The files of a directory

A walk through a directory passes over what is hidden or ignored, and all that lies below it. The
files named `.ignore` count in every directory above an entry. Those named `.gitignore` count
within a repository, that is a directory that holds `.git`, and so does the repository's own list.
The nearest directory with an opinion decides, and the first kind of list decides over the others.

* `FileTree.skips` decides about one entry, `FileTree.shows` about all steps to it.
* `FileTree.filesBelow` lists the files of a directory in the order of their paths.
-/

namespace VersionBump.FileTree

open Ignore

/-- The directories above a place, the nearest first. -/
def above : Place → List Place
  | [] => []
  | n :: ns => (above ns).map (n :: ·) ++ [[]]

/-- Whether a directory is the root of a repository. -/
def isRepository (t : FileTree) (dir : Place) : Bool := (t.find? (dir ++ [".git"])).isSome

/-- The rules of an ignore file of a directory. -/
def rulesIn (t : FileTree) (dir name : Place) : Rules :=
  match t.find? (dir ++ name) with
  | some (.file (.ok content)) => Rules.ofFile content
  | _ => []

/-- What the nearest of some directories says about an entry in the ignore file of a given name. -/
def verdictIn? (t : FileTree) (name : Place) (dirs : List Place) (place : Place) : Option Verdict :=
  dirs.findSome? fun dir =>
    (t.rulesIn dir name).verdict? (place.drop dir.length) (t.isDirectory place)

/-- The directories above an entry that belong to its repository, the nearest first. -/
def inRepository (t : FileTree) (place : Place) : List Place :=
  let dirs := above place
  -- Outside of a repository its lists have no say.
  if dirs.any t.isRepository then
    dirs.takeWhile (fun dir => !t.isRepository dir) ++ (dirs.find? t.isRepository).toList
  else []

/-- What the ignore files say about an entry. -/
def verdict? (t : FileTree) (place : Place) : Option Verdict :=
  let repository := t.inRepository place
  -- A kind of list is asked only if those before it are silent.
  (t.verdictIn? [".ignore"] (above place) place).orElse fun _ =>
    (t.verdictIn? [".gitignore"] repository place).orElse fun _ =>
      t.verdictIn? [".git", "info", "exclude"] repository place

/-- Whether an entry is hidden by its name. -/
def isHidden (place : Place) : Bool := place.getLast?.any fun name => name.toList.head? == some '.'

/-- Whether a walk passes over an entry. What is kept on purpose is shown though it is hidden. -/
def skips (t : FileTree) (place : Place) : Bool :=
  match t.verdict? place with
  | some .ignored => true
  | some .kept => false
  | none => isHidden place

/-- Whether a walk through a directory passes over none of the steps to an entry. -/
def shows (t : FileTree) (dir place : Place) : Bool :=
  (List.range (place.length - dir.length)).all fun k => !t.skips (place.take (dir.length + k + 1))

/-- A file below a directory as it is found by a walk. -/
def found? (t : FileTree) (dir : Place) : Place × Entry → Option SourceFile
  | (_, .directory) => none
  | (place, .file content) =>
    if dir.isPrefixOf place && t.shows dir place then some ⟨place.path, content⟩ else none

/-- The files that a walk through a directory finds, in the order of their paths. -/
def filesBelow (t : FileTree) (dir : Place) : List SourceFile :=
  t.entries.toList.filterMap (t.found? dir)

end VersionBump.FileTree
