import VersionBump.KeyMap.Basic
import VersionBump.Operation

/-!
# Reports

Operations sorted into cells by context and level, in the order in which they were filed. A report
is listed context by context, and within a context from the highest level to the lowest.

* `Report.add` files an operation, `Report.merge` puts two reports together cell by cell.
* `Report.dampen` turns what is above a patch into a patch.
* `Report.deduplicate` keeps one operation for each difference, the first of the most severe.
* `Report.level` and `Report.levelIn` are the highest levels with an operation.
-/

namespace VersionBump

namespace Report

/-- The place of an operation in a report. -/
structure Cell where
  context : Context
  level : Level
  deriving DecidableEq, Repr

namespace Cell

/-- How far the level of a cell is below the highest one. -/
def depth (c : Cell) : Nat := Level.major.rank - c.level.rank

instance : Ord Cell := ⟨compareLex (compareOn context) (compareOn depth)⟩

instance : Std.TransOrd Cell :=
  inferInstanceAs (Std.TransCmp (compareLex (compareOn context) (compareOn depth)))

theorem depth_injective {a b : Cell} (h : a.depth = b.depth) : a.level = b.level := by
  obtain ⟨_, l⟩ := a
  obtain ⟨_, m⟩ := b
  cases l <;> cases m <;> simp_all [depth, Level.rank]

instance : Std.LawfulEqOrd Cell where
  compare_self := compareLex_eq_eq.mpr ⟨Std.ReflOrd.compare_self, Std.ReflOrd.compare_self⟩
  eq_of_compare {a b} h := by
    have h' := compareLex_eq_eq.mp h
    have hc : a.context = b.context := Std.LawfulEqOrd.eq_of_compare h'.1
    have hl : a.level = b.level := depth_injective (Std.LawfulEqOrd.eq_of_compare h'.2)
    cases a; cases b; simp_all

end Cell

end Report

/-- Operations by context and level. -/
structure Report where
  cells : KeyMap Report.Cell (List Operation) := ∅
  deriving DecidableEq

namespace Report

/-- The report without operations. -/
def empty : Report := ⟨∅⟩

instance : EmptyCollection Report := ⟨empty⟩
instance : Inhabited Report := ⟨empty⟩

/-- The report with operations put behind those of a cell. -/
def append (r : Report) (cell : Cell) (ops : List Operation) : Report :=
  ⟨r.cells.update cell fun known => known.getD [] ++ ops⟩

/-- The report with the operation filed under its own context and level. -/
def add (r : Report) (op : Operation) : Report := r.append ⟨op.context, op.level⟩ [op]

/-- The report with all operations of a list filed. -/
def addAll (r : Report) (ops : List Operation) : Report := ops.foldl add r

/-- The report of a list of operations. -/
def ofList (ops : List Operation) : Report := empty.addAll ops

/-- The operations of two reports, cell by cell. -/
def merge (r s : Report) : Report := s.cells.toList.foldl (fun r e => r.append e.1 e.2) r

/-- The operations of a cell. -/
def operations (r : Report) (context : Context) (level : Level) : List Operation :=
  (r.cells.find? ⟨context, level⟩).getD []

/-- All operations in the order of the report. -/
def toList (r : Report) : List Operation := r.cells.toList.flatMap (·.2)

/-- The operations of one context in the order of the report. -/
def inContext (r : Report) (context : Context) : List (Cell × Operation) :=
  r.cells.toList.flatMap fun e =>
    if e.1.context = context then e.2.map (e.1, ·) else []

/-- Whether two lists hold the same operations in the same order. -/
def sameOperations : List Operation → List Operation → Bool
  | [], [] => true
  | a :: as, b :: bs => a.same b && sameOperations as bs
  | _, _ => false

/-- Whether two reports hold the same operations in the same cells and order. -/
def same (r s : Report) : Bool :=
  r.cells.keys == s.cells.keys &&
    (r.cells.values.zip s.cells.values).all fun e => sameOperations e.1 e.2

/-- The number of operations. -/
def size (r : Report) : Nat := r.toList.length

/-- Whether there is no operation. -/
def isEmpty (r : Report) : Bool := r.size == 0

/-- The contexts that have operations, in order. -/
def contexts (r : Report) : List Context :=
  ((r.cells.toList.filter fun e => !e.2.isEmpty).map (·.1.context)).eraseDups

/-- Whether a context has operations. -/
def hasDifferences (r : Report) (context : Context) : Bool :=
  r.cells.toList.any fun e => e.1.context = context && !e.2.isEmpty

/-- The highest level at which a context has operations, and `none` if it has no operations. -/
def levelIn (r : Report) (context : Context) : Level :=
  ((r.cells.toList.find? fun e => e.1.context = context && !e.2.isEmpty).map (·.1.level)).getD .none

/-- The highest level at which a report has operations, and `none` if it has no operations. -/
def level (r : Report) : Level := Level.highest (r.contexts.map r.levelIn)

/-- The operation at most as a patch. -/
def dampenOperation (op : Operation) : Operation := { op with level := .patch }

/-- The cells above a patch. -/
def isAbovePatch (cell : Cell) : Bool := Level.patch < cell.level

/-- The report with every operation above a patch filed as a patch, behind the patches of its
context, the most severe first. -/
def dampen (r : Report) : Report :=
  -- Cells at a patch or below keep their operations in front.
  let kept : Report :=
    ⟨r.cells.filterMap fun cell ops => if isAbovePatch cell then none else some ops⟩
  (r.cells.toList.filter fun e => isAbovePatch e.1).foldl
    (fun s e => s.append ⟨e.1.context, .patch⟩ (e.2.map dampenOperation)) kept

/-- The highest level of the operations with a key. -/
def highestOf (ops : List Operation) (key : Operation.Key) : Level :=
  Level.highest ((ops.filter fun op => op.key = key).map (·.level))

/-- The operations of a list whose level is the highest for their key, the first of each key. -/
def mostSevere (all : List Operation) : List Operation → List Operation.Key → List Operation
  | [], _ => []
  | op :: rest, kept =>
    -- Of several equally severe ones the first is kept.
    if op.key ∉ kept && op.level = highestOf all op.key then
      op :: mostSevere all rest (op.key :: kept)
    else mostSevere all rest kept

/-- The report with one operation for each key: the first of the most severe. -/
def deduplicate (r : Report) : Report := ofList (mostSevere r.toList r.toList [])

end Report

end VersionBump
