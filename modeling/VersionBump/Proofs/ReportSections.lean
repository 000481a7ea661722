import VersionBump.Proofs.ReportCells

/-!
# The contexts of reports

A report may be walked context by context, and a context level by level. Whoever does so meets the
same operations in the same order as whoever reads the report from front to back.

* `Report.Filed.filter_toList` picks the operations of a context, and `Report.flatMap_operations` reads
  its cells from the highest level down.
* `Report.pairwise_contexts` and `Report.mem_contexts_iff` are the contexts.
* `Report.flatMap_inContext` reads all contexts, one after the other.
-/

namespace VersionBump.Report

variable {r : Report} {context : Context}

/-! ## The order of cells -/

/-- Cells of different contexts are in the order of the contexts. -/
theorem Cell.compare_eq_lt_of_context {a b : Cell} (h : compare a.context b.context = .lt) :
    compare a b = .lt := by
  show compareLex (compareOn Cell.context) (compareOn Cell.depth) a b = .lt
  simp only [compareLex, compareOn, h, Ordering.then]

/-- The contexts of cells in order are in order. -/
theorem Cell.compare_context_ne_gt {a b : Cell} (h : compare a b = .lt) :
    compare a.context b.context ≠ .gt := by
  intro hgt
  have hlt : compare b a = .lt := compare_eq_lt_of_context (Std.OrientedCmp.lt_of_gt hgt)
  rw [Std.OrientedCmp.gt_of_lt hlt] at h
  exact nomatch h

/-- The cells of one context are in order from the highest level down. -/
private theorem pairwise_cells (context : Context) :
    Level.all.reverse.Pairwise fun l m => compare (⟨context, l⟩ : Cell) ⟨context, m⟩ = .lt := by
  have hdepths : Level.all.reverse.Pairwise fun l m =>
      compare (Level.major.rank - l.rank) (Level.major.rank - m.rank) = .lt := by decide
  refine hdepths.imp fun {l m} hlt => ?_
  show (compare context context).then _ = .lt
  rw [Std.ReflOrd.compare_self]
  exact hlt

/-! ## One context -/

/-- Lists of the elements that pass a test. -/
private theorem flatMap_filter {α β : Type} (p : α → Bool) (g : α → List β) (xs : List α) :
    (xs.filter p).flatMap g = xs.flatMap fun x => if p x then g x else [] := by
  induction xs with
  | nil => rfl
  | cons x xs ih => cases hx : p x <;> simp [hx, ih]

/-- The cells of a context, from the highest level down. -/
private theorem filter_context_toList (r : Report) (context : Context) :
    r.cells.toList.filter (·.1.context = context) =
      Level.all.reverse.filterMap fun l =>
        (r.cells.find? ⟨context, l⟩).map ((⟨context, l⟩ : Cell), ·) := by
  refine eq_of_sortedEntries (r.cells.sorted.sublist List.filter_sublist) ?_ fun e => ?_
  · refine List.Pairwise.filterMap _ (fun l m hlt a ha b hb => ?_) (pairwise_cells context)
    obtain ⟨x, -, rfl⟩ := Option.map_eq_some_iff.mp ha
    obtain ⟨y, -, rfl⟩ := Option.map_eq_some_iff.mp hb
    exact hlt
  · obtain ⟨⟨c, l⟩, ops⟩ := e
    have hall : l ∈ Level.all.reverse := by cases l <;> decide
    simp only [List.mem_filter, KeyMap.mem_toList_iff, decide_eq_true_eq, List.mem_filterMap,
      Option.map_eq_some_iff, Prod.mk.injEq, Cell.mk.injEq]
    constructor
    · rintro ⟨hfind, rfl⟩
      exact ⟨l, hall, ops, hfind, ⟨rfl, rfl⟩, rfl⟩
    · rintro ⟨m, -, x, hfind, ⟨rfl, rfl⟩, rfl⟩
      exact ⟨hfind, rfl⟩

/-- The entries of a context are those of its cells. -/
private theorem inContext_eq (r : Report) (context : Context) : r.inContext context =
    (r.cells.toList.filter (·.1.context = context)).flatMap fun e => e.2.map (e.1, ·) := by
  simp only [inContext, flatMap_filter, decide_eq_true_eq]

/-- In a filed report the operations of a context stand in their own cells. -/
theorem Filed.cellOf_eq (h : r.Filed) {e : Cell × Operation} (he : e ∈ r.inContext context) :
    cellOf e.2 = e.1 := by
  rw [inContext_eq] at he
  obtain ⟨cell, hcell, hmem⟩ := List.mem_flatMap.mp he
  obtain ⟨op, hop, rfl⟩ := List.mem_map.mp hmem
  exact h cell.1 cell.2 (KeyMap.find?_of_mem (List.mem_filter.mp hcell).1) op hop

/-- In a filed report the operations that are listed for a context are those that belong to it. -/
theorem Filed.filter_toList (h : r.Filed) (context : Context) :
    r.toList.filter (·.context = context) = (r.inContext context).map (·.2) := by
  rw [toList, List.filter_flatMap, inContext, List.map_flatMap]
  refine List.flatMap_congr fun e he => ?_
  have hcontext : ∀ op ∈ e.2, op.context = e.1.context := fun op hop =>
    congrArg Cell.context (h e.1 e.2 (KeyMap.find?_of_mem he) op hop)
  split
  case isTrue hc =>
    rw [List.map_map, Function.comp_def, List.map_id', List.filter_eq_self]
    exact fun op hop => decide_eq_true ((hcontext op hop).trans hc)
  case isFalse hc =>
    rw [List.map_nil, List.filter_eq_nil_iff]
    exact fun op hop heq => hc ((hcontext op hop).symm.trans (of_decide_eq_true heq))

/-- The cells of a context, from the highest level down, hold its operations in their order. -/
theorem flatMap_operations (r : Report) (context : Context) :
    Level.all.reverse.flatMap (r.operations context) = (r.inContext context).map (·.2) := by
  rw [inContext_eq, filter_context_toList, List.map_flatMap]
  generalize Level.all.reverse = levels
  induction levels with
  | nil => rfl
  | cons l levels ih =>
    rw [List.flatMap_cons, ih, List.filterMap_cons, operations]
    cases r.cells.find? ⟨context, l⟩ with
    | none => rfl
    | some ops => simp [Function.comp_def]

/-! ## All contexts -/

/-- Of things in order every one is listed once, in order. -/
private theorem pairwise_eraseDups {xs : List Context}
    (h : xs.Pairwise fun a b => compare a b ≠ .gt) :
    xs.eraseDups.Pairwise fun a b => compare a b = .lt := by
  match xs with
  | [] => exact .nil
  | a :: as =>
    obtain ⟨hhead, htail⟩ := List.pairwise_cons.mp h
    rw [List.eraseDups_cons]
    refine List.pairwise_cons.mpr ⟨fun b hb => ?_,
      pairwise_eraseDups (htail.sublist List.filter_sublist)⟩
    obtain ⟨hmem, hne⟩ := List.mem_filter.mp (List.mem_eraseDups.mp hb)
    cases hcompare : compare a b with
    | lt => rfl
    | eq => simp [Std.LawfulEqOrd.eq_of_compare hcompare] at hne
    | gt => exact absurd hcompare (hhead b hmem)
termination_by xs.length
decreasing_by exact Nat.lt_succ_of_le (List.length_filter_le _ _)

/-- The contexts of a report are listed in order, each once. -/
theorem pairwise_contexts (r : Report) : r.contexts.Pairwise fun a b => compare a b = .lt := by
  refine pairwise_eraseDups (List.pairwise_map.mpr ?_)
  exact (r.cells.sorted.sublist List.filter_sublist).imp Cell.compare_context_ne_gt

/-- The contexts of a report are those in which operations stand. -/
theorem mem_contexts_iff :
    context ∈ r.contexts ↔ ∃ e ∈ r.cells.toList, e.1.context = context ∧ e.2 ≠ [] := by
  simp only [contexts, List.mem_eraseDups, List.mem_map, List.mem_filter, Bool.not_eq_true',
    List.isEmpty_eq_false_iff, and_assoc, and_comm]

/-- Context by context the cells with operations are met in their order. -/
private theorem flatMap_filter_context (r : Report) :
    (r.contexts.flatMap fun context => (r.cells.toList.filter fun e => !e.2.isEmpty).filter
      (·.1.context = context)) = r.cells.toList.filter fun e => !e.2.isEmpty := by
  have hsorted : SortedEntries (r.cells.toList.filter fun e => !e.2.isEmpty) :=
    r.cells.sorted.sublist List.filter_sublist
  refine eq_of_sortedEntries (List.pairwise_flatMap.mpr ⟨fun c _ => ?_, ?_⟩) hsorted fun e => ?_
  · exact hsorted.sublist List.filter_sublist
  · refine r.pairwise_contexts.imp fun {c d} hlt a ha b hb => ?_
    obtain rfl : a.1.context = c := by simpa using (List.mem_filter.mp ha).2
    obtain rfl : b.1.context = d := by simpa using (List.mem_filter.mp hb).2
    exact Cell.compare_eq_lt_of_context hlt
  · simp only [List.mem_flatMap, List.mem_filter, mem_contexts_iff, decide_eq_true_eq,
      Bool.not_eq_true', List.isEmpty_eq_false_iff]
    constructor
    · rintro ⟨c, -, he, -⟩
      exact he
    · rintro ⟨he, hne⟩
      exact ⟨e.1.context, ⟨e, he, rfl, hne⟩, ⟨he, hne⟩, rfl⟩

/-- Context by context the entries of a report are met in their order, each once. -/
theorem flatMap_inContext (r : Report) : r.contexts.flatMap r.inContext = r.entries := by
  -- Empty cells have no entries.
  have hskip : ∀ es : List (Cell × List Operation),
      (es.filter fun e => !e.2.isEmpty).flatMap (fun e => e.2.map (e.1, ·)) =
        es.flatMap fun e => e.2.map (e.1, ·) := by
    intro es
    rw [flatMap_filter]
    refine List.flatMap_congr fun e _ => ?_
    cases e.2 <;> rfl
  have hcontext : ∀ context, r.inContext context =
      ((r.cells.toList.filter fun e => !e.2.isEmpty).filter (·.1.context = context)).flatMap
        fun e => e.2.map (e.1, ·) := by
    intro context
    rw [inContext_eq, List.filter_comm, hskip]
  rw [entries, ← hskip, ← flatMap_filter_context, List.flatMap_assoc]
  exact List.flatMap_congr fun context _ => hcontext context

/-- A report has no operations exactly if it has no contexts. -/
theorem isEmpty_iff : r.isEmpty = true ↔ r.contexts = [] := by
  have hsize : r.size = r.entries.length := by
    simp [size, toList, entries, List.length_flatMap]
  rw [isEmpty, beq_iff_eq, hsize, List.length_eq_zero_iff]
  constructor
  · intro hnil
    refine List.eq_nil_iff_forall_not_mem.mpr fun context hcontext => ?_
    obtain ⟨e, he, -, hne⟩ := mem_contexts_iff.mp hcontext
    obtain ⟨op, hop⟩ := List.exists_mem_of_ne_nil _ hne
    have hin : (e.1, op) ∈ r.entries :=
      List.mem_flatMap.mpr ⟨e, he, List.mem_map.mpr ⟨op, hop, rfl⟩⟩
    simp [hnil] at hin
  · intro hnil
    rw [← flatMap_inContext, hnil, List.flatMap_nil]

end VersionBump.Report
