import VersionBump.Proofs.RecordedOperations
import VersionBump.Proofs.SelfComparison

/-!
# Levels by context

The report of an assessment keeps one operation for each difference, and a difference does not name
its context. The levels of the contexts survive all the same: operations for one difference have one
code, and a code arises in one context only.

* `Report.Filed.levelIn_le_iff` and `Report.Filed.level_le_iff` say that the level of a context, and
  that of a report, is the least one above its operations.
* `Report.Filed.levelIn_merge` and `Report.Filed.levelIn_deduplicate` follow the levels through the
  two steps that make the report.
* `assess_levelIn` reads the levels of the report off the changes and the membership report.
-/

namespace VersionBump

namespace Report

variable {r s : Report}

/-! ## Bounds -/

/-- The level of a context is the least one above its operations. -/
theorem Filed.levelIn_le_iff (h : r.Filed) {context : Context} {level : Level} :
    r.levelIn context ≤ level ↔ ∀ op ∈ r.toList, op.context = context → op.level ≤ level := by
  constructor
  · rintro hle op hop rfl
    exact Level.le_trans (h.le_levelIn hop) hle
  · intro hops
    by_cases hlevel : r.levelIn context = .none
    · rw [hlevel]
      exact Nat.zero_le _
    · obtain ⟨op, hop, hcontext, hop_level⟩ := h.exists_levelIn_eq hlevel
      rw [← hop_level]
      exact hops op hop hcontext

/-- The level of a report is the least one above its operations. -/
theorem Filed.level_le_iff (h : r.Filed) {level : Level} :
    r.level ≤ level ↔ ∀ op ∈ r.toList, op.level ≤ level := by
  constructor
  · intro hle op hop
    exact Level.le_trans (h.level_le_of_mem hop) hle
  · intro hops
    by_cases hlevel : r.level = .none
    · rw [hlevel]
      exact Nat.zero_le _
    · obtain ⟨op, hop, hop_level⟩ := h.exists_level_eq hlevel
      rw [← hop_level]
      exact hops op hop

/-- A context has differences if an operation stands in it. -/
theorem Filed.hasDifferences_iff (h : r.Filed) {context : Context} :
    r.hasDifferences context = true ↔ ∃ op ∈ r.toList, op.context = context := by
  simp only [hasDifferences, List.any_eq_true, Bool.and_eq_true, decide_eq_true_eq,
    Bool.not_eq_true', List.isEmpty_eq_false_iff]
  constructor
  · rintro ⟨e, he, rfl, hne⟩
    obtain ⟨op, hop⟩ := List.exists_mem_of_ne_nil _ hne
    have hcell : cellOf op = e.1 := h _ _ (KeyMap.find?_of_mem he) op hop
    exact ⟨op, List.mem_flatMap.mpr ⟨e, he, hop⟩, congrArg Cell.context hcell⟩
  · rintro ⟨op, hop, rfl⟩
    obtain ⟨e, he, hmem⟩ := List.mem_flatMap.mp hop
    have hcell : cellOf op = e.1 := h _ _ (KeyMap.find?_of_mem he) op hmem
    exact ⟨e, he, congrArg Cell.context hcell.symm, List.ne_nil_of_mem hmem⟩

/-! ## Merged reports -/

/-- In merged reports the level of a context is the higher one. -/
theorem Filed.levelIn_merge (hr : r.Filed) (hs : s.Filed) (context : Context) :
    (r.merge s).levelIn context = max (r.levelIn context) (s.levelIn context) := by
  apply Level.eq_of_forall_le_iff
  intro level
  rw [(hr.merge hs).levelIn_le_iff, Level.max_le_iff, hr.levelIn_le_iff, hs.levelIn_le_iff]
  simp only [mem_toList_merge, or_imp, forall_and]

/-- The level of merged reports is the higher one. -/
theorem Filed.level_merge (hr : r.Filed) (hs : s.Filed) :
    (r.merge s).level = max r.level s.level := by
  apply Level.eq_of_forall_le_iff
  intro level
  rw [(hr.merge hs).level_le_iff, Level.max_le_iff, hr.level_le_iff, hs.level_le_iff]
  simp only [mem_toList_merge, or_imp, forall_and]

/-- Merged reports have differences in the contexts of both. -/
theorem Filed.hasDifferences_merge (hr : r.Filed) (hs : s.Filed) (context : Context) :
    (r.merge s).hasDifferences context = true ↔
      r.hasDifferences context = true ∨ s.hasDifferences context = true := by
  rw [(hr.merge hs).hasDifferences_iff, hr.hasDifferences_iff, hs.hasDifferences_iff]
  simp only [mem_toList_merge, or_and_right, exists_or]

/-! ## One operation for each difference -/

/-- Operations for one difference stand in one context. -/
def KeysTellContexts (r : Report) : Prop :=
  ∀ a ∈ r.toList, ∀ b ∈ r.toList, a.key = b.key → a.context = b.context

/-- Of the operations of a context an equally severe one of that context is kept. -/
theorem KeysTellContexts.exists_mem_deduplicate (hkeys : r.KeysTellContexts) {op : Operation}
    (hop : op ∈ r.toList) :
    ∃ chosen ∈ r.deduplicate.toList, chosen.context = op.context ∧ op.level ≤ chosen.level := by
  obtain ⟨chosen, hchosen, hkey, hle⟩ := Report.exists_mem_deduplicate hop
  exact ⟨chosen, hchosen, hkeys chosen (mem_of_mem_deduplicate hchosen) op hop hkey, hle⟩

/-- Keeping one operation for each difference keeps the levels of contexts. -/
theorem Filed.levelIn_deduplicate (hr : r.Filed) (hkeys : r.KeysTellContexts) (context : Context) :
    r.deduplicate.levelIn context = r.levelIn context := by
  apply Level.eq_of_forall_le_iff
  intro level
  have hdeduplicate : r.deduplicate.Filed := filed_ofList _
  rw [hdeduplicate.levelIn_le_iff, hr.levelIn_le_iff]
  constructor
  · rintro hkept op hop rfl
    obtain ⟨chosen, hchosen, hcontext, hle⟩ := hkeys.exists_mem_deduplicate hop
    exact Level.le_trans hle (hkept chosen hchosen hcontext)
  · intro hops op hop
    exact hops op (mem_of_mem_deduplicate hop)

/-- Keeping one operation for each difference keeps the level, whatever the contexts. -/
theorem Filed.level_deduplicate (hr : r.Filed) : r.deduplicate.level = r.level := by
  apply Level.eq_of_forall_le_iff
  intro level
  have hdeduplicate : r.deduplicate.Filed := filed_ofList _
  rw [hdeduplicate.level_le_iff, hr.level_le_iff]
  constructor
  · intro hkept op hop
    obtain ⟨chosen, hchosen, -, hle⟩ := Report.exists_mem_deduplicate hop
    exact Level.le_trans hle (hkept chosen hchosen)
  · intro hops op hop
    exact hops op (mem_of_mem_deduplicate hop)

/-- Keeping one operation for each difference empties no context. -/
theorem Filed.hasDifferences_deduplicate (hr : r.Filed) (hkeys : r.KeysTellContexts)
    (context : Context) :
    r.deduplicate.hasDifferences context = true ↔ r.hasDifferences context = true := by
  have hdeduplicate : r.deduplicate.Filed := filed_ofList _
  rw [hdeduplicate.hasDifferences_iff, hr.hasDifferences_iff]
  constructor
  · rintro ⟨op, hop, hcontext⟩
    exact ⟨op, mem_of_mem_deduplicate hop, hcontext⟩
  · rintro ⟨op, hop, rfl⟩
    obtain ⟨chosen, hchosen, hcontext, -⟩ := hkeys.exists_mem_deduplicate hop
    exact ⟨chosen, hchosen, hcontext⟩

end Report

/-! ## Assessments -/

/-- The level that one report and the changed files call for. -/
theorem suggestLevel_singleton (r : Report) {α : Type} [DecidableEq α]
    (before after : KeyMap String α) :
    suggestLevel [r] (ChangedFiles.between before after) =
      if r.level = .none ∧ before ≠ after then .patch else r.level := by
  have hfiles : (!(ChangedFiles.between before after).isEmpty) = true ↔ before ≠ after := by
    rw [Bool.not_eq_true', ← Bool.not_eq_true, ChangedFiles.isEmpty_iff,
      ChangedFiles.between_eq_empty_iff]
  have hlevel : Level.highest ([r].map (·.level)) = r.level := Level.highest_singleton r.level
  simp only [suggestLevel, hlevel, Bool.and_eq_true, decide_eq_true_eq, hfiles]

/-- In the report of an assessment every context has the higher of its levels in the changes and in
the membership report, and has differences if it has any there; the suggested level is the higher
one of the two reports, but at least a patch if a file changed. -/
theorem assess_levelIn {t : Severity.Table} {before after : Snapshot} {r : Assessment}
    (h : assess t before after = .ok r) :
    (∀ context,
      r.report.levelIn context = max (r.changes.levelIn context) (r.membership.levelIn context) ∧
      (r.report.hasDifferences context = true ↔
        r.changes.hasDifferences context = true ∨ r.membership.hasDifferences context = true)) ∧
    r.level =
      if max r.changes.level r.membership.level = .none ∧ before.files ≠ after.files then .patch
      else max r.changes.level r.membership.level := by
  obtain ⟨published, unpublished, h⟩ := assess_eq_ok_iff.mp h
  have hkeys : (r.changes.merge r.membership).KeysTellContexts := fun a ha b hb hkey =>
    (h.eq_of_key ha hb hkey).1
  constructor
  · intro context
    rw [h.report_eq]
    constructor
    · rw [h.filed_found.levelIn_deduplicate hkeys,
        h.filed_changes.levelIn_merge h.filed_membership]
    · rw [h.filed_found.hasDifferences_deduplicate hkeys,
        h.filed_changes.hasDifferences_merge h.filed_membership]
  · rw [h.level_eq, h.files_eq, suggestLevel_singleton, h.report_eq,
      h.filed_found.level_deduplicate, h.filed_changes.level_merge h.filed_membership]

/-- A snapshot with classes of the given names, published or not. -/
private def classesOf (names : List (String × Bool)) : Snapshot where
  php := names.foldl (fun classes e => classes.insert .classes e.1
    { name := e.1, kind := .classKind, isApi := e.2 } ⟨"a.php.json"⟩) ∅

/-- One class is lost and another one published. The loss is found as major on the published
surfaces and as a patch among all declarations, and the report keeps the former. -/
theorem assess_levelIn_lost : ∃ r,
    assess {} (classesOf [("a", true), ("b", false)]) (classesOf [("b", true)]) = .ok r ∧
    r.report.size < r.changes.size + r.membership.size ∧
    r.changes.levelIn .classes = .major ∧ r.membership.levelIn .classes = .minor ∧
    r.report.levelIn .classes = .major ∧ r.level = .major := by
  have hparts : (assess {} (classesOf [("a", true), ("b", false)]) (classesOf [("b", true)])).map
      (fun r => ([r.report, r.changes, r.membership].map (·.size),
        [r.changes, r.membership].map fun s => (s.levelIn .classes, s.level))) =
      .ok ([2, 2, 1], [(.major, .major), (.minor, .minor)]) := by
    decide +kernel
  obtain ⟨r, hr, hparts⟩ := exists_of_map_eq_ok hparts
  simp only [List.map_cons, List.map_nil, Prod.mk.injEq, List.cons.injEq, and_true] at hparts
  obtain ⟨⟨hsize, hsize', hsize''⟩, ⟨hchanges, hlevel⟩, hmembership, hlevel'⟩ := hparts
  obtain ⟨hcontexts, hsuggested⟩ := assess_levelIn hr
  refine ⟨r, hr, by omega, hchanges, hmembership, ?_, ?_⟩
  · rw [(hcontexts .classes).1, hchanges, hmembership]
    rfl
  · rw [hsuggested, hlevel, hlevel']
    rfl

end VersionBump
