import VersionBump.Proofs.KeyMapEntries
import VersionBump.Report

/-!
# The contents of reports

A report holds what has been filed, each operation in the cell of its context and level. As lists
its contents are known up to the order, which no statement here depends on.

* `Report.toList_ofList_perm`, `Report.toList_merge_perm` and `Report.Filed.toList_dampen_perm`
  follow the contents through the operations on reports.
* `Report.Filed` is the invariant of cells, which all operations keep.
* `Report.Filed.level_le_of_mem` bounds every operation by the level of the report, and
  `Report.Filed.exists_level_eq` finds an operation at it.
-/

namespace VersionBump

/-! ## Levels -/

namespace Level

/-- Both levels are at most the higher one. -/
theorem le_max (a b : Level) : a ≤ max a b ∧ b ≤ max a b := by
  cases a <;> cases b <;> decide

/-- Levels are ordered by their ranks. -/
theorem le_trans {a b c : Level} (hab : a ≤ b) (hbc : b ≤ c) : a ≤ c := Nat.le_trans hab hbc

/-- No level is above the highest one. -/
theorem le_highest {l : Level} {levels : List Level} (h : l ∈ levels) : l ≤ highest levels := by
  induction levels with
  | nil => exact nomatch h
  | cons m levels ih =>
    obtain ⟨hhead, htail⟩ := le_max m (highest levels)
    rcases List.mem_cons.mp h with rfl | h
    · exact hhead
    · exact le_trans (ih h) htail

/-- The highest of one level is that level. -/
theorem highest_singleton (l : Level) : highest [l] = l := by
  cases l <;> rfl

/-- The highest of some levels is one of them. -/
theorem highest_mem {levels : List Level} (h : levels ≠ []) : highest levels ∈ levels := by
  induction levels with
  | nil => exact absurd rfl h
  | cons m levels ih =>
    show max m (highest levels) ∈ m :: levels
    unfold max
    split
    case isTrue hle =>
      cases levels with
      | nil =>
        -- Among no levels the lowest counts as the highest, and only that is not above itself.
        have hnone : m = none := by
          cases m <;> first | rfl | exact absurd hle (by decide)
        rw [hnone]
        exact List.mem_cons_self
      | cons n rest => exact List.mem_cons_of_mem m (ih (by simp))
    case isFalse => exact List.mem_cons_self

/-- Levels that are at most each other are equal. -/
theorem le_antisymm {a b : Level} (hab : a ≤ b) (hba : b ≤ a) : a = b :=
  rank_injective (Nat.le_antisymm hab hba)

/-- The higher of two levels is the least one above both. -/
theorem max_le_iff {a b c : Level} : Max.max a b ≤ c ↔ a ≤ c ∧ b ≤ c := by
  cases a <;> cases b <;> cases c <;> decide

/-- Levels below the same levels are equal. -/
theorem eq_of_forall_le_iff {a b : Level} (h : ∀ c, a ≤ c ↔ b ≤ c) : a = b :=
  le_antisymm ((h b).mpr (Nat.le_refl _)) ((h a).mp (Nat.le_refl _))

/-- The level, but a patch at most. -/
def capped (l : Level) : Level := if .patch < l then .patch else l

/-- A capped level is a patch at most. -/
theorem capped_le_patch (l : Level) : l.capped ≤ .patch := by
  cases l <;> decide

/-- A capped level is not above the level itself. -/
theorem capped_le (l : Level) : l.capped ≤ l := by
  cases l <;> decide

/-- Capping keeps the order of levels. -/
theorem capped_mono {a b : Level} (h : a ≤ b) : a.capped ≤ b.capped := by
  cases a <;> cases b <;> first | decide | exact absurd h (by decide)

/-- Nothing is above major. -/
theorem eq_major_of_le {l : Level} (h : .major ≤ l) : l = .major := by
  cases l <;> first | rfl | exact absurd h (by decide)

end Level

/-- The operation, but at most as a patch. -/
def Operation.capped (op : Operation) : Operation := { op with level := op.level.capped }

namespace Report

/-! ## Contents -/

/-- Putting values behind those of one key adds them to the values. -/
private theorem flatMap_updateEntry_perm {κ α : Type} [Ord κ] (k : κ) (xs : List α)
    (es : List (κ × List α)) :
    ((updateEntry k (fun known => known.getD [] ++ xs) es).flatMap (·.2)).Perm
      (es.flatMap (·.2) ++ xs) := by
  induction es with
  | nil => simp [updateEntry]
  | cons e rest ih =>
    unfold updateEntry
    split
    · rw [List.flatMap_cons, Option.getD_none, List.nil_append]
      exact List.perm_append_comm
    · simp only [Option.getD_some, List.flatMap_cons, List.append_assoc]
      exact List.Perm.append_left _ List.perm_append_comm
    · simp only [List.flatMap_cons, List.append_assoc]
      exact List.Perm.append_left _ ih

/-- Operations that are put into a cell are added to the contents. -/
theorem toList_append_perm (r : Report) (cell : Cell) (ops : List Operation) :
    (r.append cell ops).toList.Perm (r.toList ++ ops) :=
  flatMap_updateEntry_perm cell ops r.cells.entries

/-- Putting the operations of entries into their cells adds them all to the contents. -/
private theorem toList_foldl_append_perm {α : Type} (cell : α → Cell) (ops : α → List Operation)
    (es : List α) (r : Report) :
    (es.foldl (fun r e => r.append (cell e) (ops e)) r).toList.Perm (r.toList ++ es.flatMap ops) := by
  induction es generalizing r with
  | nil => simp
  | cons e es ih =>
    rw [List.foldl_cons, List.flatMap_cons, ← List.append_assoc]
    exact (ih _).trans ((toList_append_perm r _ _).append_right _)

/-- A report of a list holds the list. -/
theorem toList_ofList_perm (ops : List Operation) : (ofList ops).toList.Perm ops := by
  have h := toList_foldl_append_perm (fun op : Operation => ⟨op.context, op.level⟩)
    (fun op => [op]) ops empty
  rw [show ops.flatMap (fun op => [op]) = ops from List.flatMap_singleton' ops] at h
  exact h

/-- Merged reports hold what both hold. -/
theorem toList_merge_perm (r s : Report) : (r.merge s).toList.Perm (r.toList ++ s.toList) :=
  toList_foldl_append_perm (fun e : Cell × List Operation => e.1) (fun e => e.2) s.cells.toList r

/-- What a report of a list holds. -/
theorem mem_toList_ofList {ops : List Operation} {op : Operation} :
    op ∈ (ofList ops).toList ↔ op ∈ ops :=
  (toList_ofList_perm ops).mem_iff

/-- What merged reports hold. -/
theorem mem_toList_merge {r s : Report} {op : Operation} :
    op ∈ (r.merge s).toList ↔ op ∈ r.toList ∨ op ∈ s.toList := by
  rw [(toList_merge_perm r s).mem_iff, List.mem_append]

/-- What many reports merged into one hold. -/
theorem mem_toList_foldl_merge {rs : List Report} {r : Report} {op : Operation} :
    op ∈ (rs.foldl merge r).toList ↔ op ∈ r.toList ∨ ∃ s ∈ rs, op ∈ s.toList := by
  induction rs generalizing r with
  | nil => simp
  | cons s rs ih =>
    rw [List.foldl_cons, ih, mem_toList_merge, or_assoc]
    simp

/-! ## Cells -/

/-- The cell that an operation belongs in. -/
def cellOf (op : Operation) : Cell := ⟨op.context, op.level⟩

/-- Every operation is in the cell of its own context and level. -/
def Filed (r : Report) : Prop := ∀ cell ops, r.cells.find? cell = some ops → ∀ op ∈ ops, cellOf op = cell

/-- A report without operations has none in a wrong cell. -/
theorem filed_empty : Filed empty := fun _ _ h => nomatch h

/-- Operations that belong in a cell may be put there. -/
theorem Filed.append {r : Report} (h : r.Filed) {cell : Cell} {ops : List Operation}
    (hops : ∀ op ∈ ops, cellOf op = cell) : (r.append cell ops).Filed := by
  intro c held hc op hop
  simp only [Report.append, KeyMap.find?_update] at hc
  split at hc
  case isTrue heq =>
    obtain rfl : c = cell := Std.LawfulEqOrd.eq_of_compare heq
    obtain rfl := Option.some.inj hc
    rcases List.mem_append.mp hop with hop | hop
    · cases hk : r.cells.find? c with
      | none => simp [hk] at hop
      | some known => exact h c known hk op (by simpa [hk] using hop)
    · exact hops op hop
  case isFalse => exact h c held hc op hop

/-- Entries whose operations belong in their cells may be put there. -/
private theorem Filed.foldl_append {α : Type} {cell : α → Cell} {ops : α → List Operation}
    {es : List α} (hes : ∀ e ∈ es, ∀ op ∈ ops e, cellOf op = cell e) {r : Report} (h : r.Filed) :
    (es.foldl (fun r e => r.append (cell e) (ops e)) r).Filed := by
  induction es generalizing r with
  | nil => exact h
  | cons e es ih =>
    exact ih (fun e' he' => hes e' (List.mem_cons_of_mem e he'))
      (h.append (hes e List.mem_cons_self))

/-- A list is filed operation by operation. -/
theorem filed_ofList (ops : List Operation) : (ofList ops).Filed :=
  Filed.foldl_append (fun _ _ _ ho => by rw [List.mem_singleton.mp ho]; rfl) filed_empty

/-- Filed reports may be merged. -/
theorem Filed.merge {r s : Report} (hr : r.Filed) (hs : s.Filed) : (r.merge s).Filed :=
  Filed.foldl_append (fun _ he => hs _ _ (KeyMap.find?_of_mem he)) hr

/-- Many filed reports may be merged. -/
theorem Filed.foldl_merge {rs : List Report} (hs : ∀ s ∈ rs, s.Filed) {r : Report} (hr : r.Filed) :
    (rs.foldl Report.merge r).Filed := by
  induction rs generalizing r with
  | nil => exact hr
  | cons s rs ih =>
    exact ih (fun s' hs' => hs s' (List.mem_cons_of_mem s hs')) (hr.merge (hs s List.mem_cons_self))

/-- The cells that dampening leaves alone are cells of the report. -/
theorem find?_of_find?_kept {r : Report} {cell : Cell} {ops : List Operation}
    (h : (r.cells.filterMap fun cell ops =>
      if isAbovePatch cell then none else some ops).find? cell = some ops) :
    r.cells.find? cell = some ops := by
  rw [KeyMap.find?_filterMap, Option.bind_eq_some_iff] at h
  obtain ⟨held, hheld, hkept⟩ := h
  split at hkept
  · exact nomatch hkept
  · cases hkept
    exact hheld

/-- Dampening moves operations to the cell that they belong in then. -/
theorem Filed.dampen {r : Report} (h : r.Filed) : r.dampen.Filed := by
  refine Filed.foldl_append (fun e he op hop => ?_) fun cell ops hcell => ?_
  · obtain ⟨original, horiginal, rfl⟩ := List.mem_map.mp hop
    have hcell := h _ _ (KeyMap.find?_of_mem (List.mem_filter.mp he).1) original horiginal
    rw [← hcell]
    rfl
  · exact h cell ops (find?_of_find?_kept hcell)

/-- In a filed report the operations of a cell are those of its context and level. -/
theorem Filed.mem_operations_iff {r : Report} (h : r.Filed) {context : Context} {level : Level}
    {op : Operation} :
    op ∈ r.operations context level ↔ op ∈ r.toList ∧ op.context = context ∧ op.level = level := by
  simp only [operations, toList, List.mem_flatMap]
  constructor
  · intro hop
    cases hc : r.cells.find? ⟨context, level⟩ with
    | none => simp [hc] at hop
    | some ops =>
      have hmem : op ∈ ops := by simpa [hc] using hop
      obtain ⟨hcontext, hlevel⟩ := Cell.mk.inj (h _ _ hc op hmem)
      exact ⟨⟨(_, ops), r.cells.mem_toList_iff.mpr hc, hmem⟩, hcontext, hlevel⟩
  · rintro ⟨⟨⟨cell, ops⟩, he, hop⟩, rfl, rfl⟩
    have hcell := h _ _ (r.cells.mem_toList_iff.mp he) op hop
    subst hcell
    have hfind := r.cells.mem_toList_iff.mp he
    rw [cellOf] at hfind
    rw [hfind]
    exact hop

/-! ## Levels of reports -/

/-- Of two cells of one context the earlier has the higher level. -/
private theorem Cell.level_le_of_lt {a b : Cell} (hcontext : a.context = b.context)
    (h : compare a b = .lt) : b.level ≤ a.level := by
  have hdepth : compare a.depth b.depth = .lt := by
    have h' : compareLex (compareOn Cell.context) (compareOn Cell.depth) a b = .lt := h
    simpa [compareLex, compareOn, hcontext, Std.ReflCmp.compare_self] using h'
  rw [Nat.compare_eq_lt] at hdepth
  revert hdepth
  unfold Cell.depth
  cases a.level <;> cases b.level <;> decide

/-- An operation of a filed report is listed in the entry of its cell. -/
private theorem Filed.exists_entry {r : Report} (h : r.Filed) {op : Operation} (hop : op ∈ r.toList) :
    ∃ e ∈ r.cells.toList, e.1 = cellOf op ∧ e.2.isEmpty = false := by
  obtain ⟨e, he, hmem⟩ := List.mem_flatMap.mp hop
  have hcell : cellOf op = e.1 := h e.1 e.2 (KeyMap.find?_of_mem he) op hmem
  exact ⟨e, he, hcell.symm, List.isEmpty_eq_false_iff.mpr (List.ne_nil_of_mem hmem)⟩

/-- The operations of a context are at most at its level. -/
theorem Filed.le_levelIn {r : Report} (h : r.Filed) {op : Operation} (hop : op ∈ r.toList) :
    op.level ≤ r.levelIn op.context := by
  obtain ⟨e, he, hcell, hne⟩ := h.exists_entry hop
  have hcontext : e.1.context = op.context := by rw [hcell, cellOf]
  have hlevel : e.1.level = op.level := by rw [hcell, cellOf]
  unfold levelIn
  cases hf : r.cells.toList.find? fun e => e.1.context = op.context && !e.2.isEmpty with
  | none =>
    have hno := List.find?_eq_none.mp hf e he
    simp [hcontext, hne] at hno
  | some first =>
    -- Cells of one context are listed from the highest level down, so the first one is highest.
    obtain ⟨hfirst, front, back, hsplit, hfront⟩ := List.find?_eq_some_iff_append.mp hf
    simp only [Option.map_some, Option.getD_some, ← hlevel]
    rw [hsplit] at he
    rcases List.mem_append.mp he with he | he
    · have hno := hfront e he
      simp [hcontext, hne] at hno
    · rcases List.mem_cons.mp he with rfl | he
      · exact Nat.le_refl _
      · have hsorted := r.cells.sorted
        rw [show r.cells.entries = r.cells.toList from rfl, hsplit] at hsorted
        have hlt : compare first.1 e.1 = .lt := KeyMap.lt_of_sortedEntries hsorted he
        have hsame : first.1.context = e.1.context := by
          rw [hcontext]
          simpa using (Bool.and_eq_true_iff.mp hfirst).1
        exact Cell.level_le_of_lt hsame hlt

/-- No operation of a filed report is above its level. -/
theorem Filed.level_le_of_mem {r : Report} (h : r.Filed) {op : Operation} (hop : op ∈ r.toList) :
    op.level ≤ r.level := by
  obtain ⟨e, he, hcell, hne⟩ := h.exists_entry hop
  have hcontext : op.context ∈ r.contexts := by
    refine List.mem_eraseDups.mpr (List.mem_map.mpr ⟨e, ?_, by rw [hcell, cellOf]⟩)
    exact List.mem_filter.mpr ⟨he, by simp [hne]⟩
  exact Level.le_trans (h.le_levelIn hop)
    (Level.le_highest (List.mem_map.mpr ⟨op.context, hcontext, rfl⟩))

/-- A context whose level is not the lowest has an operation at it. -/
theorem Filed.exists_levelIn_eq {r : Report} (h : r.Filed) {context : Context}
    (hlevel : r.levelIn context ≠ .none) :
    ∃ op ∈ r.toList, op.context = context ∧ op.level = r.levelIn context := by
  unfold levelIn at hlevel ⊢
  cases hf : r.cells.toList.find? fun e => e.1.context = context && !e.2.isEmpty with
  | none => exact absurd (by rw [hf]; rfl) hlevel
  | some first =>
    have hfirst := List.find?_some hf
    have hcell := List.mem_of_find?_eq_some hf
    simp only [Bool.and_eq_true, decide_eq_true_eq, Bool.not_eq_true',
      List.isEmpty_eq_false_iff] at hfirst
    obtain ⟨op, hop⟩ := List.exists_mem_of_ne_nil _ hfirst.2
    have hfiled : cellOf op = first.1 := h _ _ (KeyMap.find?_of_mem hcell) op hop
    refine ⟨op, List.mem_flatMap.mpr ⟨first, hcell, hop⟩, ?_, congrArg Cell.level hfiled⟩
    rw [← hfirst.1, ← hfiled, cellOf]

/-- A filed report whose level is not the lowest has an operation at it. -/
theorem Filed.exists_level_eq {r : Report} (h : r.Filed) (hlevel : r.level ≠ .none) :
    ∃ op ∈ r.toList, op.level = r.level := by
  have hcontexts : r.contexts.map r.levelIn ≠ [] := by
    intro hnil
    exact hlevel (by rw [level, hnil]; rfl)
  obtain ⟨context, -, hcontext⟩ := List.mem_map.mp (Level.highest_mem hcontexts)
  rw [level] at hlevel ⊢
  rw [← hcontext] at hlevel ⊢
  obtain ⟨op, hop, -, hop_level⟩ := h.exists_levelIn_eq hlevel
  exact ⟨op, hop, hop_level⟩

/-! ## Dampening -/

/-- Dampening adds patches to the cells that it keeps. -/
private theorem toList_dampen_parts (r : Report) : r.dampen.toList.Perm
    ((r.cells.toList.filterMap fun e =>
      (if isAbovePatch e.1 then none else some e.2).map (e.1, ·)).flatMap (·.2) ++
    (r.cells.toList.filter fun e => isAbovePatch e.1).flatMap fun e => e.2.map dampenOperation) :=
  toList_foldl_append_perm (fun e : Cell × List Operation => ⟨e.1.context, .patch⟩)
    (fun e => e.2.map dampenOperation) (r.cells.toList.filter fun e => isAbovePatch e.1)
    ⟨r.cells.filterMap fun cell ops => if isAbovePatch cell then none else some ops⟩

/-- Where the operations belong in their cells, those of the cells that are kept and those of the
others as patches are all of them, each at most as a patch. -/
private theorem parts_perm_map_capped {es : List (Cell × List Operation)}
    (hes : ∀ e ∈ es, ∀ op ∈ e.2, cellOf op = e.1) :
    ((es.filterMap fun e => (if isAbovePatch e.1 then none else some e.2).map (e.1, ·)).flatMap
      (·.2) ++ (es.filter fun e => isAbovePatch e.1).flatMap fun e => e.2.map dampenOperation).Perm
      ((es.flatMap (·.2)).map Operation.capped) := by
  induction es with
  | nil => exact .refl _
  | cons e es ih =>
    have hrest := ih fun e' he' => hes e' (List.mem_cons_of_mem e he')
    have hlevel : ∀ op ∈ e.2, op.level = e.1.level := fun op hop =>
      congrArg Cell.level (hes e List.mem_cons_self op hop)
    cases habove : isAbovePatch e.1 with
    | true =>
      have hcapped : e.2.map Operation.capped = e.2.map dampenOperation := by
        refine List.map_congr_left fun op hop => ?_
        have hgt : Level.patch < op.level := by
          rw [hlevel op hop]
          exact of_decide_eq_true habove
        rw [Operation.capped, Level.capped, if_pos hgt, dampenOperation]
      simp only [List.filterMap_cons, List.filter_cons, habove, if_true, Option.map_none,
        List.flatMap_cons, List.map_append, hcapped]
      -- The dampened operations of the first cell stand behind all that is kept.
      rw [← List.append_assoc]
      refine (List.perm_append_comm.append_right _).trans ?_
      rw [List.append_assoc]
      exact hrest.append_left _
    | false =>
      have hcapped : e.2.map Operation.capped = e.2 := by
        refine (List.map_congr_left fun op hop => ?_).trans (List.map_id e.2)
        have hle : ¬ Level.patch < op.level := by
          rw [hlevel op hop]
          exact of_decide_eq_false habove
        rw [Operation.capped, Level.capped, if_neg hle, id]
      simp only [List.filterMap_cons, List.filter_cons, habove, Bool.false_eq_true, if_false,
        Option.map_some, List.flatMap_cons, List.map_append, hcapped, List.append_assoc]
      exact hrest.append_left _

/-- Dampening keeps every operation of a filed report, each at most as a patch. -/
theorem Filed.toList_dampen_perm {r : Report} (h : r.Filed) :
    r.dampen.toList.Perm (r.toList.map Operation.capped) :=
  (toList_dampen_parts r).trans
    (parts_perm_map_capped fun _ he => h _ _ (KeyMap.find?_of_mem he))

/-- What a dampened report holds. -/
theorem Filed.mem_toList_dampen {r : Report} (h : r.Filed) {op : Operation} :
    op ∈ r.dampen.toList ↔ ∃ original ∈ r.toList, original.capped = op := by
  rw [h.toList_dampen_perm.mem_iff, List.mem_map]

end Report

end VersionBump
