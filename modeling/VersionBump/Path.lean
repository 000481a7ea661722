import VersionBump.Text.Case

/-!
# Paths

A path keeps the text it was written as, but two paths are compared by their components: repeated
and trailing slashes and inner dots do not count. The order of paths is the order of their
components, which is not the order of their texts.

* `Path.components` splits a path.
* `Path.same` and `Path.compare` look at components only.
* `Path.join` puts a path behind a directory, `Path.below?` takes the directory off again.
-/

namespace VersionBump

/-- A step of a path. -/
inductive PathComponent where
  | root
  | here
  | parent
  | name (text : String)
  deriving DecidableEq, Repr, Inhabited

namespace PathComponent

/-- The text of a step. -/
def text : PathComponent → String
  | root => "/"
  | here => "."
  | parent => ".."
  | name t => t

/-- The place of the kind of step in the order of steps. -/
def rank : PathComponent → Nat
  | root => 0
  | here => 1
  | parent => 2
  | name _ => 3

/-- Steps are ordered by kind, names by their text. -/
def compare (a b : PathComponent) : Ordering :=
  (compareOfLessAndEq a.rank b.rank).then (Ord.compare a.text b.text)

instance : Ord PathComponent := ⟨compare⟩

end PathComponent

/-- A file or directory name as it was written. -/
structure Path where
  text : String
  deriving DecidableEq, Repr, Inhabited

namespace Path

/-- Whether the path starts at the root. -/
def isAbsolute (p : Path) : Bool := p.text.toList.head? == some '/'

/-- The step that a piece between two slashes stands for, if it stands for one. -/
def stepOf? (piece : String) : Option PathComponent :=
  if piece = "" || piece = "." then none
  else if piece = ".." then some .parent
  else some (.name piece)

/-- The steps of a path. A dot counts only at the start of a relative path. -/
def components (p : Path) : List PathComponent :=
  let pieces := Text.splitAt '/' p.text
  let start : List PathComponent :=
    if p.isAbsolute then [.root] else if pieces.head? = some "." then [.here] else []
  start ++ pieces.filterMap stepOf?

/-- Whether two paths have the same steps. -/
def same (p q : Path) : Bool := p.components == q.components

/-- The order of paths by their steps. -/
def compare (p q : Path) : Ordering := Ord.compare p.components q.components

/-- Whether `p` does not come after `q`. -/
def le (p q : Path) : Bool := p.compare q != .gt

/-- The last step, if it is a name. -/
def fileName? (p : Path) : Option String :=
  match p.components.getLast? with
  | some (.name t) => some t
  | _ => none

/-- The path `q` seen from the directory `p`. An absolute path stays as it is. -/
def join (p q : Path) : Path :=
  if q.isAbsolute then q
  else if p.text = "" || Text.endsWith p.text "/" then ⟨p.text ++ q.text⟩
  else ⟨p.text ++ "/" ++ q.text⟩

/-- The steps that remain of `p` behind the directory `dir`. -/
def below? (dir p : Path) : Option (List PathComponent) :=
  let d := dir.components
  if d.isPrefixOf p.components then some (p.components.drop d.length) else none

/-- The text of `p` relative to `dir`, with single slashes. A path that is not below `dir` is
taken as a whole. -/
def relativeText (dir p : Path) : String :=
  Text.joinWith "/" (((dir.below? p).getD p.components).map (·.text))

end Path

end VersionBump
