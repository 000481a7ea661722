import VersionBump.Proofs.ReportOrder

/-!
# The cells of reports

What stands in which cell after an operation on reports, in order. The reports that can be made have
no empty cells, so they are known by the contents of their cells.

* `Report.operations_append`, `Report.operations_merge` and `Report.operations_dampen` follow the
  contents of a cell through the operations on reports.
* `Report.Proper` are the reports without empty cells; `Report.Built.proper` says that all reports
  that can be made are among them, and `Report.Proper.ext_operations` that cells tell such reports
  apart.
* `Report.Rearranges` compares reports up to the order in the cells.
-/

namespace VersionBump

/-! ## Two keys of a map -/

namespace KeyMap

variable {κ ν : Type} [Ord κ] [Std.TransOrd κ] [Std.LawfulEqOrd κ]

/-- A map lists what it finds under two keys in the order of the keys. -/
theorem filter_pair_toList [DecidableEq κ] (m : KeyMap κ ν) {k l : κ} (h : compare k l = .lt) :
    m.toList.filter (fun e => e.1 = k ∨ e.1 = l) =
      (m.find? k).toList.map (k, ·) ++ (m.find? l).toList.map (l, ·) := by
  have hsorted : SortedEntries (m.toList.filter fun e => e.1 = k ∨ e.1 = l) :=
    m.sorted.sublist List.filter_sublist
  have hpair : SortedEntries ((m.find? k).toList.map (k, ·) ++ (m.find? l).toList.map (l, ·)) := by
    cases m.find? k <;> cases m.find? l <;> simp [SortedEntries, h]
  refine eq_of_sortedEntries hsorted hpair fun e => ?_
  obtain ⟨q, x⟩ := e
  simp only [List.mem_filter, mem_toList_iff, decide_eq_true_eq, List.mem_append, List.mem_map,
    Option.mem_toList, Prod.mk.injEq]
  constructor
  · rintro ⟨hx, rfl | rfl⟩
    · exact .inl ⟨x, hx, rfl, rfl⟩
    · exact .inr ⟨x, hx, rfl, rfl⟩
  · rintro (⟨y, hy, rfl, rfl⟩ | ⟨y, hy, rfl, rfl⟩)
    · exact ⟨hy, .inl rfl⟩
    · exact ⟨hy, .inr rfl⟩

end KeyMap

namespace Report

variable {r s : Report} {context : Context} {level : Level}

/-! ## Contents of cells -/

/-- Reports with the same cells are equal. -/
theorem ext_cells (h : ∀ cell, r.cells.find? cell = s.cells.find? cell) : r = s := by
  have hcells : r.cells = s.cells := KeyMap.ext_find? h
  cases r
  cases s
  exact congrArg Report.mk hcells

/-- The cells after operations have been put into one. -/
theorem find?_append (r : Report) (cell : Cell) (ops : List Operation) (c : Cell) :
    (r.append cell ops).cells.find? c =
      if compare c cell = .eq then some ((r.cells.find? cell).getD [] ++ ops)
      else r.cells.find? c :=
  KeyMap.find?_update _ _ _ _

@[simp] theorem operations_empty (context : Context) (level : Level) :
    empty.operations context level = [] := rfl

/-- Operations are put behind those of their cell, and the other cells stay as they are. -/
theorem operations_append (r : Report) (cell : Cell) (ops : List Operation) (context : Context)
    (level : Level) : (r.append cell ops).operations context level =
      r.operations context level ++ if cell = ⟨context, level⟩ then ops else [] := by
  by_cases hcell : cell = ⟨context, level⟩
  · subst hcell
    simp [operations, find?_append, Std.ReflOrd.compare_self]
  · have hne : compare (⟨context, level⟩ : Cell) cell ≠ .eq := fun heq =>
      hcell (Std.LawfulEqOrd.eq_of_compare heq).symm
    simp [operations, find?_append, hcell, hne]

/-- Of many entries that are put into cells, a cell gets its own in their order. -/
theorem operations_foldl_append {α : Type} (cell : α → Cell) (ops : α → List Operation)
    (es : List α) (r : Report) (context : Context) (level : Level) :
    (es.foldl (fun r e => r.append (cell e) (ops e)) r).operations context level =
      r.operations context level ++ (es.filter (cell · = ⟨context, level⟩)).flatMap ops := by
  induction es generalizing r with
  | nil => simp
  | cons e es ih =>
    rw [List.foldl_cons, ih, operations_append]
    by_cases hcell : cell e = ⟨context, level⟩ <;> simp [hcell]

/-- The operations of a cell are those of the entries with its key. -/
theorem flatMap_filter_key (r : Report) (context : Context) (level : Level) :
    (r.cells.toList.filter (·.1 = ⟨context, level⟩)).flatMap (·.2) = r.operations context level := by
  rw [KeyMap.filter_key_toList, operations]
  cases r.cells.find? ⟨context, level⟩ <;> simp

/-- In merged reports the operations of the second stand behind those of the first, cell by cell. -/
theorem operations_merge (r s : Report) (context : Context) (level : Level) :
    (r.merge s).operations context level =
      r.operations context level ++ s.operations context level := by
  rw [merge, operations_foldl_append (fun e : Cell × List Operation => e.1) (fun e => e.2),
    flatMap_filter_key]

/-! ## Dampened cells -/

/-- The cells above a patch are those for major and for minor operations. -/
theorem isAbovePatch_iff {cell : Cell} :
    isAbovePatch cell = true ↔ cell.level = .major ∨ cell.level = .minor := by
  rw [isAbovePatch, decide_eq_true_eq]
  cases cell.level <;> decide

/-- What dampening moves to the patches of a context: its major operations, and then the minor
ones. -/
private theorem moved_eq (r : Report) (context : Context) :
    ((r.cells.toList.filter fun e => isAbovePatch e.1).filter
      fun e => (⟨e.1.context, .patch⟩ : Cell) = ⟨context, .patch⟩).flatMap
        (fun e => e.2.map dampenOperation) =
      (r.operations context .major ++ r.operations context .minor).map dampenOperation := by
  have hlt : compare (⟨context, .major⟩ : Cell) ⟨context, .minor⟩ = .lt := by
    show compareLex (compareOn Cell.context) (compareOn Cell.depth) _ _ = .lt
    simp only [compareLex, compareOn, Std.ReflOrd.compare_self, Ordering.then]
    rfl
  -- Of the two cells the one for major operations comes first.
  have hfilter : (r.cells.toList.filter fun e => isAbovePatch e.1).filter
      (fun e => (⟨e.1.context, .patch⟩ : Cell) = ⟨context, .patch⟩) =
      r.cells.toList.filter fun e => e.1 = ⟨context, .major⟩ ∨ e.1 = ⟨context, .minor⟩ := by
    rw [List.filter_filter]
    refine List.filter_congr fun e _ => ?_
    obtain ⟨⟨c, l⟩, ops⟩ := e
    rw [Bool.eq_iff_iff]
    by_cases hc : c = context <;> simp [hc, isAbovePatch_iff]
  rw [hfilter, KeyMap.filter_pair_toList _ hlt, operations, operations]
  cases r.cells.find? ⟨context, .major⟩ <;> cases r.cells.find? ⟨context, .minor⟩ <;> simp

/-- The cells that dampening keeps. -/
private theorem operations_kept (r : Report) (context : Context) (level : Level) :
    (Report.mk (r.cells.filterMap fun cell ops =>
      if isAbovePatch cell then none else some ops)).operations context level =
      if isAbovePatch ⟨context, level⟩ then [] else r.operations context level := by
  rw [operations, KeyMap.find?_filterMap, operations]
  cases r.cells.find? ⟨context, level⟩ <;> cases isAbovePatch ⟨context, level⟩ <;> rfl

/-- After dampening the patches of a context are the old ones, and behind them what was major and
then what was minor. Nothing is left above them, and below them everything stays. -/
theorem operations_dampen (r : Report) (context : Context) (level : Level) :
    r.dampen.operations context level =
      if level = .patch then r.operations context .patch ++
        (r.operations context .major ++ r.operations context .minor).map dampenOperation
      else if level = .none then r.operations context .none
      else [] := by
  rw [dampen, operations_foldl_append (fun e : Cell × List Operation => ⟨e.1.context, .patch⟩)
    (fun e => e.2.map dampenOperation), operations_kept]
  by_cases hlevel : level = .patch
  · subst hlevel
    rw [moved_eq]
    rfl
  · -- All that is moved goes to the patches.
    have hmoved : (r.cells.toList.filter fun e => isAbovePatch e.1).filter
        (fun e => (⟨e.1.context, .patch⟩ : Cell) = ⟨context, level⟩) = [] := by
      refine List.filter_eq_nil_iff.mpr fun e _ => ?_
      simp [Ne.symm hlevel]
    rw [hmoved, if_neg hlevel]
    cases level with
    | patch => exact absurd rfl hlevel
    | none | minor | major => simp [isAbovePatch_iff]

/-! ## Reports without empty cells -/

/-- No cell of the report is empty. -/
def Proper (r : Report) : Prop := ∀ cell ops, r.cells.find? cell = some ops → ops ≠ []

/-- In a report without empty cells a cell is there exactly if operations stand in it. -/
theorem Proper.find?_eq (h : r.Proper) (context : Context) (level : Level) :
    r.cells.find? ⟨context, level⟩ =
      if r.operations context level = [] then none else some (r.operations context level) := by
  rw [operations]
  cases hfind : r.cells.find? ⟨context, level⟩ with
  | none => simp
  | some ops => simp [h _ ops hfind]

/-- Reports without empty cells are equal if the same operations stand in their cells. -/
theorem Proper.ext_operations (hr : r.Proper) (hs : s.Proper)
    (h : ∀ context level, r.operations context level = s.operations context level) : r = s :=
  ext_cells fun ⟨context, level⟩ => by rw [hr.find?_eq, hs.find?_eq, h]

theorem proper_empty : empty.Proper := fun _ _ h => nomatch h

/-- Putting operations into a cell makes no cell empty. -/
theorem Proper.append (h : r.Proper) {cell : Cell} {ops : List Operation} (hops : ops ≠ []) :
    (r.append cell ops).Proper := by
  intro c held hc
  rw [find?_append] at hc
  split at hc
  · cases hc
    simp [hops]
  · exact h c held hc

/-- Putting many operations into cells makes no cell empty. -/
private theorem Proper.foldl_append {α : Type} {cell : α → Cell} {ops : α → List Operation}
    {es : List α} (hes : ∀ e ∈ es, ops e ≠ []) (h : r.Proper) :
    (es.foldl (fun r e => r.append (cell e) (ops e)) r).Proper := by
  induction es generalizing r with
  | nil => exact h
  | cons e es ih =>
    obtain ⟨he, hrest⟩ := List.forall_mem_cons.mp hes
    exact ih hrest (h.append he)

theorem Proper.add (h : r.Proper) (op : Operation) : (r.add op).Proper := h.append (by simp)

theorem Proper.addAll (h : r.Proper) (ops : List Operation) : (r.addAll ops).Proper :=
  h.foldl_append fun _ _ => by simp

theorem Proper.merge (hr : r.Proper) (hs : s.Proper) : (r.merge s).Proper :=
  hr.foldl_append fun _ he => hs _ _ (KeyMap.find?_of_mem he)

/-- Dampening moves the operations of cells that are not empty, and drops the cells. -/
theorem Proper.dampen (h : r.Proper) : r.dampen.Proper := by
  refine Proper.foldl_append (fun e he => ?_) fun cell ops hcell => ?_
  · simpa using h _ _ (KeyMap.find?_of_mem (List.mem_filter.mp he).1)
  · exact h cell ops (find?_of_find?_kept hcell)

/-- No operation on reports makes a cell empty. -/
theorem Built.proper (h : r.Built) : r.Proper := by
  induction h with
  | empty => exact proper_empty
  | add op _ ih => exact ih.add op
  | addAll ops _ ih => exact ih.addAll ops
  | merge _ _ ihr ihs => exact ihr.merge ihs
  | dampen _ ih => exact ih.dampen
  | deduplicate => exact proper_empty.addAll _

/-! ## The order in the cells -/

/-- Two reports have the same cells, and the same operations in each up to the order. -/
structure Rearranges (r s : Report) : Prop where
  keys : r.cells.keys = s.cells.keys
  perm : ∀ context level, (r.operations context level).Perm (s.operations context level)

/-- In reports without empty cells the operations tell which cells there are. -/
theorem Proper.rearranges (hr : r.Proper) (hs : s.Proper)
    (h : ∀ context level, (r.operations context level).Perm (s.operations context level)) :
    r.Rearranges s where
  keys := KeyMap.keys_eq_of_contains_eq fun ⟨context, level⟩ => by
    have hnil : r.operations context level = [] ↔ s.operations context level = [] :=
      by
      rw [← List.length_eq_zero_iff, (h context level).length_eq, List.length_eq_zero_iff]
    simp only [KeyMap.contains, hr.find?_eq, hs.find?_eq, hnil]
    split <;> rfl
  perm := h

end Report

end VersionBump
