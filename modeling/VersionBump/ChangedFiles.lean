import VersionBump.KeyMap.Basic

/-!
# Changed files

The files that differ between two snapshots, by path.
-/

namespace VersionBump

/-- Paths of changed files, each list in order. -/
structure ChangedFiles where
  added : List String := []
  removed : List String := []
  modified : List String := []
  deriving DecidableEq, Repr, Inhabited

namespace ChangedFiles

/-- The files that differ between two maps from paths to contents. -/
def between {α : Type} [DecidableEq α] (before after : KeyMap String α) : ChangedFiles where
  added := after.keys.filter fun p => !before.contains p
  removed := before.keys.filter fun p => !after.contains p
  modified :=
    (after.toList.filter fun e =>
      match before.find? e.1 with
      | some content => content ≠ e.2
      | none => false).map (·.1)

/-- The number of changed files. -/
def size (c : ChangedFiles) : Nat := c.added.length + c.removed.length + c.modified.length

/-- Whether no file changed. -/
def isEmpty (c : ChangedFiles) : Bool :=
  c.added.isEmpty && c.removed.isEmpty && c.modified.isEmpty

/-- All changed files, by the way in which they changed. -/
def toList (c : ChangedFiles) : List String := c.added ++ c.removed ++ c.modified

end ChangedFiles

end VersionBump
