import VersionBump.Proofs.ReportCells

/-!
# Dampened reports

Dampening is for differences that may not call for more than a patch. It caps levels and nothing
else: every operation stays in its context, and apart from its level as it was.

* `Report.Dampens` relates a report to what is left after dampening, cell by cell.
* `Report.Proper.dampen_dampen` says that dampening twice is dampening once, and
  `Report.Proper.dampen_merge` that it does not matter whether reports are dampened before or after
  they are merged, up to the order in the cells.
* `Report.Built.dampen_caps` is the statement.
-/

namespace VersionBump.Report

variable {r s : Report}

/-- What identifies a difference, with its location as it is written. -/
def siteOf (op : Operation) : Path × String × String := (op.location, op.target, op.code)

/-- A report has the operations of another one, but none above a patch. In every context those that
were above stand behind the patches, the major ones first, as they were but for their levels. -/
structure Dampens (r s : Report) : Prop where
  capped : ∀ op ∈ s.toList, op.level ≤ .patch
  major : ∀ context, s.operations context .major = []
  minor : ∀ context, s.operations context .minor = []
  patch : ∀ context, s.operations context .patch = r.operations context .patch ++
    (r.operations context .major ++ r.operations context .minor).map fun op =>
      { op with level := .patch }
  none : ∀ context, s.operations context .none = r.operations context .none
  sites : (s.toList.map siteOf).Perm (r.toList.map siteOf)

/-- Capping an operation keeps the difference that it stands for. -/
theorem siteOf_capped (op : Operation) : siteOf op.capped = siteOf op := rfl

/-- No operation of a dampened report is above a patch. -/
theorem Filed.level_le_patch_of_mem_dampen (h : r.Filed) {op : Operation}
    (hop : op ∈ r.dampen.toList) : op.level ≤ .patch := by
  obtain ⟨original, -, rfl⟩ := h.mem_toList_dampen.mp hop
  exact original.level.capped_le_patch

/-- Dampening caps the levels and changes nothing else. -/
theorem Filed.dampens_dampen (h : r.Filed) : r.Dampens r.dampen where
  capped _ hop := h.level_le_patch_of_mem_dampen hop
  major context := by simp [operations_dampen]
  minor context := by simp [operations_dampen]
  patch context := by
    rw [operations_dampen, if_pos rfl]
    rfl
  none context := by simp [operations_dampen]
  sites := by
    have hperm := h.toList_dampen_perm.map siteOf
    rwa [List.map_map, show siteOf ∘ Operation.capped = siteOf from funext siteOf_capped] at hperm

/-- A second time there is nothing left to dampen. -/
theorem Proper.dampen_dampen (h : r.Proper) : r.dampen.dampen = r.dampen := by
  refine h.dampen.dampen.ext_operations h.dampen fun context level => ?_
  cases level <;> simp [operations_dampen]

/-- Reports may be dampened before or after they are merged. The order in the cells may differ: only
what is dampened afterwards has all patches in front of what was above. -/
theorem Proper.dampen_merge (hr : r.Proper) (hs : s.Proper) :
    (r.merge s).dampen.Rearranges (r.dampen.merge s.dampen) := by
  refine (hr.merge hs).dampen.rearranges (hr.dampen.merge hs.dampen) fun context level => ?_
  cases level with
  | none | minor | major => simp [operations_dampen, operations_merge]
  | patch =>
    rw [List.perm_iff_count]
    intro op
    simp only [operations_dampen, operations_merge, if_true, List.map_append, List.count_append]
    omega

/-- Dampening a report that is made by the operations on reports: no operation is left above a patch,
what was above stands behind the patches of its context, and nothing else changes. A second time
nothing changes at all, and merging before or afterwards leads to the same operations in each
cell. -/
theorem Built.dampen_caps (h : r.Built) :
    r.Dampens r.dampen ∧ r.dampen.dampen = r.dampen ∧
      ∀ s, s.Built → (r.merge s).dampen.Rearranges (r.dampen.merge s.dampen) :=
  ⟨h.filed.dampens_dampen, h.proper.dampen_dampen, fun _ hs => h.proper.dampen_merge hs.proper⟩

/-- The operation for a method, by the name of the method. -/
private def method (level : Level) (name : String) : Operation :=
  ⟨.php .methodRemoved, "C021", level, .classes, name, ⟨"Foo.php"⟩, "Method was removed"⟩

/-- Minor and major operations go behind the patches, although they were filed before. Filed into two
reports they come out in another order if the reports are dampened first. -/
theorem Built.dampen_caps_filed_first :
    let r := ofList [method .minor "b", method .major "a", method .patch "c", method .none "d"]
    let s := ofList [method .minor "f", method .patch "e"]
    r.Dampens r.dampen ∧
      r.dampen.toList = [method .patch "c", method .patch "a", method .patch "b", method .none "d"] ∧
      (r.merge s).dampen ≠ r.dampen.merge s.dampen ∧
      (r.merge s).dampen.Rearranges (r.dampen.merge s.dampen) := by
  intro r s
  have hr : r.Built := .addAll _ .empty
  have hs : s.Built := .addAll _ .empty
  obtain ⟨hdampens, -, hmerge⟩ := hr.dampen_caps
  exact ⟨hdampens, by decide +kernel, by decide +kernel, hmerge s hs⟩

end VersionBump.Report
