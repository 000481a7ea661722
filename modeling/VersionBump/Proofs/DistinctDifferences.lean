import VersionBump.Proofs.ReportContents

/-!
# One operation for each difference

A report keeps one operation for each difference, and that is one of the most severe. Which one is
kept depends on the order of the report; its key and its level do not.

* `Report.nodup_keys_deduplicate` says that no difference is kept twice, and
  `Report.exists_mem_deduplicate` that none is lost.
* `Report.level_le_of_mem_deduplicate` says that what is kept is the most severe.
-/

namespace VersionBump

namespace Report

variable {all ops : List Operation} {kept : List Operation.Key} {op : Operation}

/-- What is kept is an operation of the list at the highest level of its key, and nothing is kept for
a key that is kept already. -/
theorem of_mem_mostSevere (h : op ∈ mostSevere all ops kept) :
    op ∈ ops ∧ op.level = highestOf all op.key ∧ op.key ∉ kept := by
  induction ops generalizing kept with
  | nil => exact nomatch h
  | cons o rest ih =>
    unfold mostSevere at h
    split at h
    case isTrue ho =>
      simp only [Bool.and_eq_true, decide_eq_true_eq] at ho
      rcases List.mem_cons.mp h with rfl | h
      · exact ⟨List.mem_cons_self, ho.2, ho.1⟩
      · -- The rest was chosen with the key of `o` kept as well.
        obtain ⟨hin, hlevel, hnew⟩ := ih h
        exact ⟨List.mem_cons_of_mem o hin, hlevel, fun hk => hnew (List.mem_cons_of_mem _ hk)⟩
    case isFalse =>
      obtain ⟨hin, hrest⟩ := ih h
      exact ⟨List.mem_cons_of_mem o hin, hrest⟩

/-- No two operations are kept for one key. -/
private theorem nodup_keys_mostSevere :
    ((mostSevere all ops kept).map Operation.key).Nodup := by
  induction ops generalizing kept with
  | nil => exact List.nodup_nil
  | cons o rest ih =>
    unfold mostSevere
    split
    · rw [List.map_cons, List.nodup_cons]
      refine ⟨fun hin => ?_, ih⟩
      -- Whatever is kept later has a key other than this one.
      obtain ⟨later, hlater, hkey⟩ := List.mem_map.mp hin
      exact (of_mem_mostSevere hlater).2.2 (hkey ▸ List.mem_cons_self)
    · exact ih

/-- Of the operations with one key an equally severe one is kept, unless the key is kept already. -/
private theorem exists_mem_mostSevere (hop : op ∈ ops) (hlevel : op.level = highestOf all op.key)
    (hkept : op.key ∉ kept) :
    ∃ chosen ∈ mostSevere all ops kept, chosen.key = op.key ∧ chosen.level = op.level := by
  induction ops generalizing kept with
  | nil => exact nomatch hop
  | cons o rest ih =>
    unfold mostSevere
    split
    case isTrue ho =>
      simp only [Bool.and_eq_true, decide_eq_true_eq] at ho
      by_cases hkey : o.key = op.key
      · exact ⟨o, List.mem_cons_self, hkey, by rw [ho.2, hlevel, hkey]⟩
      · have hrest : op ∈ rest :=
          (List.mem_cons.mp hop).resolve_left fun heq => hkey (heq ▸ rfl)
        have hnew : op.key ∉ o.key :: kept := fun hin => by
          rcases List.mem_cons.mp hin with heq | hin
          · exact hkey heq.symm
          · exact hkept hin
        obtain ⟨chosen, hchosen, h⟩ := ih hrest hnew
        exact ⟨chosen, List.mem_cons_of_mem o hchosen, h⟩
    case isFalse ho =>
      simp only [Bool.and_eq_true, decide_eq_true_eq] at ho
      have hrest : op ∈ rest :=
        (List.mem_cons.mp hop).resolve_left fun heq => ho ⟨heq ▸ hkept, heq ▸ hlevel⟩
      exact ih hrest hkept

variable {r : Report}

/-- What is left after keeping one operation for each difference was there before. -/
theorem mem_of_mem_deduplicate (h : op ∈ r.deduplicate.toList) :
    op ∈ r.toList :=
  (of_mem_mostSevere (mem_toList_ofList.mp h)).1

/-- An operation of every difference is kept, and none of the difference is more severe. -/
theorem exists_mem_deduplicate (h : op ∈ r.toList) :
    ∃ chosen ∈ r.deduplicate.toList, chosen.key = op.key ∧ op.level ≤ chosen.level := by
  have hmem : op.level ∈ (r.toList.filter fun o => o.key = op.key).map (·.level) :=
    List.mem_map.mpr ⟨op, List.mem_filter.mpr ⟨h, by simp⟩, rfl⟩
  obtain ⟨top, htop, hlevel⟩ := List.mem_map.mp (Level.highest_mem (List.ne_nil_of_mem hmem))
  obtain ⟨hin, hkey⟩ := List.mem_filter.mp htop
  have hkey : top.key = op.key := by simpa using hkey
  have htoplevel : top.level = highestOf r.toList top.key := by rw [hkey, highestOf, hlevel]
  obtain ⟨chosen, hchosen, hck, hcl⟩ := exists_mem_mostSevere hin htoplevel List.not_mem_nil
  refine ⟨chosen, mem_toList_ofList.mpr hchosen, hck.trans hkey, ?_⟩
  rw [hcl, hlevel]
  exact Level.le_highest hmem

/-- The differences are the same after keeping one operation for each. -/
theorem exists_key_deduplicate_iff {key : Operation.Key} :
    (∃ op ∈ r.deduplicate.toList, op.key = key) ↔ ∃ op ∈ r.toList, op.key = key := by
  constructor
  · rintro ⟨op, hop, hkey⟩
    exact ⟨op, mem_of_mem_deduplicate hop, hkey⟩
  · rintro ⟨op, hop, rfl⟩
    obtain ⟨chosen, hchosen, hkey, -⟩ := exists_mem_deduplicate hop
    exact ⟨chosen, hchosen, hkey⟩

/-- No difference is kept twice. -/
theorem nodup_keys_deduplicate (r : Report) : (r.deduplicate.toList.map Operation.key).Nodup :=
  ((toList_ofList_perm _).map _).nodup_iff.mpr nodup_keys_mostSevere

/-- What is kept is at least as severe as any other operation for the same difference. -/
theorem level_le_of_mem_deduplicate {chosen : Operation} (hchosen : chosen ∈ r.deduplicate.toList)
    (hop : op ∈ r.toList) (hkey : op.key = chosen.key) : op.level ≤ chosen.level := by
  rw [(of_mem_mostSevere (mem_toList_ofList.mp hchosen)).2.1, highestOf]
  exact Level.le_highest (List.mem_map.mpr ⟨op, List.mem_filter.mpr ⟨hop, by simp [hkey]⟩, rfl⟩)

end Report

end VersionBump
