import VersionBump.Proofs.ContextLevels
import VersionBump.Proofs.NestedReports

/-!
# The monoid of reports

Reports are put together by merging, and the empty report changes nothing. What one asks a merged
report is answered from the answers of its parts: the levels by the higher one, the differences by
either one, the number of operations by the sum.

* `Report.MergeLaws` collects these laws, and `Report.Built.mergeLaws` says that the reports that can
  be made have them.
* `Report.Filed.levelIn_eq_highest` finds the level of a context among its operations.
* `Report.Recipe.makes_monoid` is the statement, for the flat and for the nested form.
-/

namespace VersionBump

/-- The highest level is the least one above all of them. -/
theorem Level.highest_le_iff {levels : List Level} {l : Level} :
    highest levels ≤ l ↔ ∀ m ∈ levels, m ≤ l := by
  induction levels with
  | nil => exact iff_of_true (Nat.zero_le _) fun _ h => nomatch h
  | cons m levels ih =>
    show Max.max m (highest levels) ≤ l ↔ _
    rw [max_le_iff, ih, List.forall_mem_cons]

namespace Report

variable {r s t : Report}

/-! ## Laws of merging -/

/-- Merging is associative, the empty report changes nothing on either side, and the order of the
reports shows only in the order within the cells. Levels, differences and sizes of a merged report
are known from its parts. -/
structure MergeLaws (r s t : Report) : Prop where
  assoc : (r.merge s).merge t = r.merge (s.merge t)
  empty_merge : empty.merge r = r
  merge_empty : r.merge empty = r
  comm : (r.merge s).Rearranges (s.merge r)
  levelIn : ∀ context,
    (r.merge s).levelIn context = max (r.levelIn context) (s.levelIn context)
  hasDifferences : ∀ context, (r.merge s).hasDifferences context =
    (r.hasDifferences context || s.hasDifferences context)
  size : (r.merge s).size = r.size + s.size
  level : (r.merge s).level = max r.level s.level

theorem Proper.merge_assoc (hr : r.Proper) (hs : s.Proper) (ht : t.Proper) :
    (r.merge s).merge t = r.merge (s.merge t) :=
  ((hr.merge hs).merge ht).ext_operations (hr.merge (hs.merge ht)) fun context level => by
    simp only [operations_merge, List.append_assoc]

theorem Proper.empty_merge (h : r.Proper) : empty.merge r = r :=
  (proper_empty.merge h).ext_operations h fun context level => by simp [operations_merge]

theorem merge_empty (r : Report) : r.merge empty = r := rfl

/-- The order of two reports shows only in the order within the cells. -/
theorem Proper.merge_comm (hr : r.Proper) (hs : s.Proper) : (r.merge s).Rearranges (s.merge r) :=
  (hr.merge hs).rearranges (hs.merge hr) fun context level => by
    rw [operations_merge, operations_merge]
    exact List.perm_append_comm

/-- Merged reports have as many operations as both together. -/
theorem size_merge (r s : Report) : (r.merge s).size = r.size + s.size :=
  (toList_merge_perm r s).length_eq.trans List.length_append

/-- The reports that can be made have the laws of merging. -/
theorem Built.mergeLaws (hr : r.Built) (hs : s.Built) (ht : t.Built) : MergeLaws r s t where
  assoc := hr.proper.merge_assoc hs.proper ht.proper
  empty_merge := hr.proper.empty_merge
  merge_empty := r.merge_empty
  comm := hr.proper.merge_comm hs.proper
  levelIn := hr.filed.levelIn_merge hs.filed
  hasDifferences context := by
    rw [Bool.eq_iff_iff, hr.filed.hasDifferences_merge hs.filed, Bool.or_eq_true]
  size := size_merge r s
  level := hr.filed.level_merge hs.filed

/-! ## Levels of contexts -/

/-- The level of a context is the highest one that is stored in its operations. -/
theorem Filed.levelIn_eq_highest (h : r.Filed) (context : Context) : r.levelIn context =
    Level.highest ((r.toList.filter (·.context = context)).map (·.level)) := by
  apply Level.eq_of_forall_le_iff
  intro level
  rw [h.levelIn_le_iff, Level.highest_le_iff]
  simp only [List.forall_mem_map, List.mem_filter, decide_eq_true_eq, and_imp]

/-! ## Both forms -/

namespace Recipe

/-- The nested form of a report is known by the flat one. -/
theorem nested_eq_iff (p q : Recipe) : p.nested = q.nested ↔ p.report = q.report := by
  obtain ⟨hp, hpreport⟩ := p.nested_represents
  obtain ⟨hq, hqreport⟩ := q.nested_represents
  rw [← hpreport, ← hqreport]
  exact ⟨congrArg Nested.flatten, hp.eq_of_flatten_eq hq⟩

/-- In whatever way reports are made, the nested form has no empty contexts and levels, every operation
stands under its own context and level, and it is read off as the flat form, in which likewise no cell
is empty and every operation is in its own. Either form is known by the other. In both of them merging
is associative with the empty report as identity, and it does to levels, differences and sizes what
the laws say. The level of a context is the highest one that is stored in its operations. -/
theorem makes_monoid (p q o : Recipe) :
    (p.nested.Tidy ∧ p.nested.flatten = p.report ∧ p.report.Proper ∧ p.report.Filed) ∧
    (p.nested = q.nested ↔ p.report = q.report) ∧
    ((p.nested.merge q.nested).merge o.nested = p.nested.merge (q.nested.merge o.nested) ∧
      Nested.empty.merge p.nested = p.nested ∧ p.nested.merge .empty = p.nested) ∧
    MergeLaws p.report q.report o.report ∧
    ∀ context, p.report.levelIn context =
      Level.highest ((p.report.toList.filter (·.context = context)).map (·.level)) := by
  have hlaws := p.built.mergeLaws q.built o.built
  refine ⟨⟨p.nested_represents.1, p.nested_represents.2, p.built.proper, p.built.filed⟩,
    p.nested_eq_iff q,
    ⟨?_, ?_, ?_⟩, hlaws, p.built.filed.levelIn_eq_highest⟩
  -- A law of flat reports holds of the nested ones that are made in the same way.
  · exact ((p.merge q).merge o).nested_eq_iff (p.merge (q.merge o)) |>.mpr hlaws.assoc
  · exact (empty.merge p).nested_eq_iff p |>.mpr hlaws.empty_merge
  · exact (p.merge empty).nested_eq_iff p |>.mpr hlaws.merge_empty

end Recipe

end Report

end VersionBump
