import VersionBump.Proofs.DistinctDifferences
import VersionBump.Proofs.ReportCells

/-!
# Restricted reports

A report restricted to some contexts. All operations on reports work context by context, so it does
not matter whether a report is restricted before or afterwards. Keeping one operation for each
difference is no exception as long as operations of different contexts do not share a key.

* `Report.restrict` drops contexts.
* `Report.restrict_ofList`, `Report.restrict_merge`, `Report.restrict_dampen` and
  `Report.Filed.restrict_deduplicate` exchange it with the operations on reports.
-/

namespace VersionBump.Report

/-- The report with the contexts that are kept. -/
def restrict (keep : Context → Bool) (r : Report) : Report :=
  ⟨r.cells.filterMap fun cell ops => if keep cell.context then some ops else none⟩

variable {keep : Context → Bool} {r s : Report}

/-! ## Cells -/

/-- The cells of a restricted report are those of the report in the contexts that are kept. -/
theorem find?_restrict (r : Report) (cell : Cell) : (r.restrict keep).cells.find? cell =
    if keep cell.context then r.cells.find? cell else none := by
  rw [restrict, KeyMap.find?_filterMap]
  cases keep cell.context <;> cases r.cells.find? cell <;> rfl

/-- Restricting a report filters its entries. -/
theorem toList_cells_restrict (r : Report) :
    (r.restrict keep).cells.toList = r.cells.toList.filter fun e => keep e.1.context := by
  show r.cells.entries.filterMap _ = r.cells.entries.filter _
  rw [← List.filterMap_eq_filter]
  refine List.filterMap_congr fun e _ => ?_
  cases h : keep e.1.context <;> simp [Option.guard, h]

/-! ## Filing operations -/

/-- What is put into a context that is kept may be put there after restricting. -/
theorem restrict_append_of_keep {cell : Cell} (h : keep cell.context = true)
    (ops : List Operation) :
    (r.append cell ops).restrict keep = (r.restrict keep).append cell ops := by
  refine ext_cells fun c => ?_
  rw [find?_restrict, find?_append, find?_append, find?_restrict, find?_restrict, h, if_pos rfl]
  by_cases heq : compare c cell = .eq
  · rw [if_pos heq, if_pos heq, Std.LawfulEqOrd.eq_of_compare heq, h, if_pos rfl]
  · rw [if_neg heq, if_neg heq]

/-- What is put into a context that is dropped is dropped. -/
theorem restrict_append_of_not {cell : Cell} (h : keep cell.context = false)
    (ops : List Operation) : (r.append cell ops).restrict keep = r.restrict keep := by
  refine ext_cells fun c => ?_
  rw [find?_restrict, find?_append, find?_restrict]
  by_cases heq : compare c cell = .eq
  · rw [Std.LawfulEqOrd.eq_of_compare heq, h]
    rfl
  · rw [if_neg heq]

/-- Restricting after many operations have been filed drops those of the other contexts. -/
private theorem restrict_foldl_append {α : Type} (cell : α → Cell) (ops : α → List Operation)
    (es : List α) (r : Report) :
    (es.foldl (fun r e => r.append (cell e) (ops e)) r).restrict keep =
      (es.filter fun e => keep (cell e).context).foldl (fun r e => r.append (cell e) (ops e))
        (r.restrict keep) := by
  induction es generalizing r with
  | nil => rfl
  | cons e es ih =>
    rw [List.foldl_cons, ih]
    cases h : keep (cell e).context with
    | true => simp only [restrict_append_of_keep h, List.filter_cons, h, if_true, List.foldl_cons]
    | false => simp only [restrict_append_of_not h, List.filter_cons, h, Bool.false_eq_true, if_false]

/-- A list of operations may be restricted before it is filed. -/
theorem restrict_ofList (ops : List Operation) :
    (ofList ops).restrict keep = ofList (ops.filter fun op => keep op.context) :=
  restrict_foldl_append (fun op : Operation => ⟨op.context, op.level⟩) (fun op => [op]) ops empty

/-- Reports may be restricted before they are merged. -/
theorem restrict_merge (r s : Report) :
    (r.merge s).restrict keep = (r.restrict keep).merge (s.restrict keep) := by
  rw [merge, merge, toList_cells_restrict]
  exact restrict_foldl_append (fun e : Cell × List Operation => e.1) (fun e => e.2) s.cells.toList r

/-- Many reports may be restricted before they are merged. -/
theorem restrict_foldl_merge (rs : List Report) (r : Report) :
    (rs.foldl merge r).restrict keep = (rs.map (restrict keep)).foldl merge (r.restrict keep) := by
  induction rs generalizing r with
  | nil => rfl
  | cons s rs ih => rw [List.foldl_cons, ih, restrict_merge, List.map_cons, List.foldl_cons]

/-- A report may be restricted before it is dampened, since its operations stay in their
contexts. -/
theorem restrict_dampen (r : Report) : r.dampen.restrict keep = (r.restrict keep).dampen := by
  -- The cells that dampening leaves alone may be chosen before or after those that are kept.
  have hkept : (Report.restrict keep
      ⟨r.cells.filterMap fun cell ops => if isAbovePatch cell then none else some ops⟩) =
      ⟨(r.restrict keep).cells.filterMap fun cell ops =>
        if isAbovePatch cell then none else some ops⟩ := by
    refine ext_cells fun cell => ?_
    rw [find?_restrict, KeyMap.find?_filterMap, KeyMap.find?_filterMap, find?_restrict]
    cases keep cell.context <;> rfl
  rw [dampen, dampen, toList_cells_restrict, ← hkept, List.filter_filter]
  rw [restrict_foldl_append (fun e : Cell × List Operation => ⟨e.1.context, .patch⟩)
    (fun e => e.2.map dampenOperation), List.filter_filter]
  simp only [Bool.and_comm]

/-! ## One operation for each difference -/

/-- A filed report holds the operations of the contexts that are kept. -/
theorem Filed.toList_restrict (h : r.Filed) :
    (r.restrict keep).toList = r.toList.filter fun op => keep op.context := by
  rw [toList, toList_cells_restrict, toList]
  have hentries : ∀ e ∈ r.cells.toList, ∀ op ∈ e.2, op.context = e.1.context := fun e he op hop =>
    congrArg Cell.context (h e.1 e.2 (KeyMap.find?_of_mem he) op hop)
  generalize r.cells.toList = es at hentries
  induction es with
  | nil => rfl
  | cons e es ih =>
    have hrest := ih fun e' he' => hentries e' (List.mem_cons_of_mem e he')
    have hhead := hentries e List.mem_cons_self
    rw [List.flatMap_cons, List.filter_append, ← hrest]
    cases hkeep : keep e.1.context with
    | true =>
      have hall : e.2.filter (fun op => keep op.context) = e.2 :=
        List.filter_eq_self.mpr fun op hop => by rw [hhead op hop, hkeep]
      simp only [List.filter_cons, hkeep, if_true, List.flatMap_cons, hall]
    | false =>
      have hnone : e.2.filter (fun op => keep op.context) = [] :=
        List.filter_eq_nil_iff.mpr fun op hop => by rw [hhead op hop, hkeep]; exact Bool.false_ne_true
      simp only [List.filter_cons, hkeep, Bool.false_eq_true, if_false, hnone, List.nil_append]

/-- Keeping one operation for each difference may be done after filtering, if operations with one
key are kept or dropped together. -/
private theorem filter_mostSevere {q : Operation → Bool} {all ops : List Operation}
    (hq : ∀ a ∈ all, ∀ b ∈ all, a.key = b.key → q a = q b) (hops : ops ⊆ all)
    {kept kept' : List Operation.Key}
    (hkept : ∀ op ∈ ops, q op = true → (op.key ∈ kept ↔ op.key ∈ kept')) :
    (mostSevere all ops kept).filter q = mostSevere (all.filter q) (ops.filter q) kept' := by
  induction ops generalizing kept kept' with
  | nil => rfl
  | cons op rest ih =>
    have hop : op ∈ all := hops List.mem_cons_self
    have hrest : rest ⊆ all := fun o ho => hops (List.mem_cons_of_mem op ho)
    have hkeptrest : ∀ o ∈ rest, q o = true → (o.key ∈ kept ↔ o.key ∈ kept') :=
      fun o ho => hkept o (List.mem_cons_of_mem op ho)
    cases hqop : q op with
    | true =>
      have hmem := hkept op List.mem_cons_self hqop
      -- All operations with this key are kept, so they have the same highest level as before.
      have hhighest : highestOf (all.filter q) op.key = highestOf all op.key := by
        rw [highestOf, highestOf, List.filter_filter]
        congr 2
        refine List.filter_congr fun o ho => ?_
        by_cases hkey : o.key = op.key
        · simp [hkey, hq o ho op hop hkey, hqop]
        · simp [hkey]
      rw [List.filter_cons_of_pos hqop]
      unfold mostSevere
      simp only [hmem, hhighest]
      split
      · rw [List.filter_cons_of_pos hqop]
        refine congrArg (op :: ·) (ih hrest fun o ho hqo => ?_)
        rw [List.mem_cons, List.mem_cons, hkeptrest o ho hqo]
      · exact ih hrest hkeptrest
    | false =>
      rw [List.filter_cons_of_neg (by simp [hqop]), mostSevere]
      split
      · rw [List.filter_cons_of_neg (by simp [hqop])]
        refine ih hrest fun o ho hqo => ?_
        -- The key of an operation that is dropped is none of those that are kept.
        have hne : o.key ≠ op.key := fun hkey => by
          rw [hq o (hrest ho) op hop hkey, hqop] at hqo
          exact Bool.false_ne_true hqo
        rw [List.mem_cons, or_iff_right hne, hkeptrest o ho hqo]
      · exact ih hrest hkeptrest

/-- A report may be restricted before one operation is kept for each difference, if no two contexts
share one. -/
theorem Filed.restrict_deduplicate (h : r.Filed)
    (hkeys : ∀ a ∈ r.toList, ∀ b ∈ r.toList, a.key = b.key → a.context = b.context) :
    r.deduplicate.restrict keep = (r.restrict keep).deduplicate := by
  rw [deduplicate, deduplicate, restrict_ofList, h.toList_restrict]
  refine congrArg ofList (filter_mostSevere (fun a ha b hb hkey => ?_) (List.Subset.refl _) ?_)
  · rw [hkeys a ha b hb hkey]
  · exact fun _ _ _ => Iff.rfl

end VersionBump.Report
