import Mathlib.Data.List.Perm.Basic
import VersionBump.Proofs.ContextLevels
import VersionBump.Proofs.ReportOrder

/-!
# Kept operations

Out of the operations for one difference a report keeps the first of the most severe, in the order in
which it is listed.

* `Report.Filed.toList_deduplicate` says that the operations are picked in the order of the report.
* `Report.Filed.exists_split_of_mem_deduplicate` says which operation of a difference is kept, and
  `Report.Filed.deduplicate_deduplicate` that nothing is left to pick afterwards.
* `Report.Filed.outlines_deduplicate_congr` says that context, level and difference of what is kept
  do not depend on the order within the cells.
* `Report.Built.deduplicate_keeps_firsts` is the statement.
-/

namespace VersionBump

/-- The context, the level and the difference of an operation. -/
def Operation.outline (op : Operation) : Report.Cell × Operation.Key := (Report.cellOf op, op.key)

namespace Report

/-- A report keeps out of another one a single operation for each difference: the first of those
with the highest level. It lists what it keeps in the same order and has the same level. -/
structure Keeps (r s : Report) : Prop where
  single : ∀ op ∈ r.toList, ∃ chosen, s.toList.filter (·.key = op.key) = [chosen]
  first : ∀ chosen ∈ s.toList, ∃ front back, r.toList = front ++ chosen :: back ∧
    (∀ op ∈ r.toList, op.key = chosen.key → op.level ≤ chosen.level) ∧
    ∀ op ∈ front, op.key = chosen.key → op.level < chosen.level
  order : s.entries.Sublist r.entries
  level : s.level = r.level

variable {r s : Report} {all ops : List Operation} {kept : List Operation.Key}
  {op chosen : Operation}

/-! ## Picking operations -/

/-- Operations are picked in the order of the list. -/
private theorem mostSevere_sublist : (mostSevere all ops kept).Sublist ops := by
  induction ops generalizing kept with
  | nil => exact .refl _
  | cons o rest ih =>
    unfold mostSevere
    split
    · exact ih.cons_cons o
    · exact ih.cons o

/-- In front of an operation that is picked there is none of its key at the highest level. -/
private theorem exists_split_of_mem_mostSevere (h : chosen ∈ mostSevere all ops kept) :
    ∃ front back, ops = front ++ chosen :: back ∧
      ∀ op ∈ front, op.key = chosen.key → op.level ≠ highestOf all chosen.key := by
  induction ops generalizing kept with
  | nil => exact nomatch h
  | cons o rest ih =>
    unfold mostSevere at h
    split at h
    case isTrue ho =>
      rcases List.mem_cons.mp h with rfl | h
      · exact ⟨[], rest, rfl, fun _ hop => absurd hop List.not_mem_nil⟩
      · -- The key of the head is taken, so that what is picked later has another one.
        obtain ⟨front, back, rfl, hfront⟩ := ih h
        have hne : o.key ≠ chosen.key := fun heq =>
          (of_mem_mostSevere h).2.2 (heq ▸ List.mem_cons_self)
        refine ⟨o :: front, back, rfl, List.forall_mem_cons.mpr ⟨fun heq => absurd heq hne, hfront⟩⟩
    case isFalse ho =>
      obtain ⟨front, back, rfl, hfront⟩ := ih h
      refine ⟨o :: front, back, rfl, List.forall_mem_cons.mpr ⟨fun heq hlevel => ho ?_, hfront⟩⟩
      -- A head with the key and the highest level would have been picked.
      have hnew : chosen.key ∉ kept := (of_mem_mostSevere h).2.2
      simp [heq, hnew, hlevel]

/-- If keys do not repeat and all levels are the highest, everything is picked. -/
private theorem mostSevere_eq_self (hnodup : (ops.map Operation.key).Nodup)
    (hlevel : ∀ op ∈ ops, op.level = highestOf all op.key) (hkept : ∀ op ∈ ops, op.key ∉ kept) :
    mostSevere all ops kept = ops := by
  induction ops generalizing kept with
  | nil => rfl
  | cons o rest ih =>
    rw [List.map_cons, List.nodup_cons] at hnodup
    obtain ⟨holevel, hrestlevel⟩ := List.forall_mem_cons.mp hlevel
    obtain ⟨hokept, hrestkept⟩ := List.forall_mem_cons.mp hkept
    have hrest : ∀ op ∈ rest, op.key ∉ o.key :: kept := fun op hop hin => by
      rcases List.mem_cons.mp hin with heq | hin
      · exact hnodup.1 (heq ▸ List.mem_map_of_mem hop)
      · exact hrestkept op hop hin
    unfold mostSevere
    rw [if_pos (by simp [hokept, holevel]), ih hnodup.2 hrestlevel hrest]

/-! ## One operation for each difference -/

/-- What is kept is listed as it was picked. -/
theorem Filed.toList_deduplicate (h : r.Filed) :
    r.deduplicate.toList = mostSevere r.toList r.toList [] :=
  toList_ofList (h.ordered_toList.sublist mostSevere_sublist)

/-- What is kept is the most severe of its difference, and the first such operation. -/
theorem Filed.exists_split_of_mem_deduplicate (h : r.Filed) (hchosen : chosen ∈ r.deduplicate.toList) :
    ∃ front back, r.toList = front ++ chosen :: back ∧
      (∀ op ∈ r.toList, op.key = chosen.key → op.level ≤ chosen.level) ∧
      ∀ op ∈ front, op.key = chosen.key → op.level < chosen.level := by
  have hle : ∀ op ∈ r.toList, op.key = chosen.key → op.level ≤ chosen.level := fun op hop hkey =>
    level_le_of_mem_deduplicate hchosen hop hkey
  rw [h.toList_deduplicate] at hchosen
  obtain ⟨front, back, hsplit, hfront⟩ := exists_split_of_mem_mostSevere hchosen
  refine ⟨front, back, hsplit, hle, fun op hop hkey => ?_⟩
  have hin : op ∈ r.toList := hsplit ▸ List.mem_append_left _ hop
  have hne : op.level ≠ chosen.level := (of_mem_mostSevere hchosen).2.1 ▸ hfront op hop hkey
  exact Nat.lt_of_le_of_ne (hle op hin hkey) fun heq => hne (Level.rank_injective heq)

/-- The first of the most severe operations of each difference are kept, and nothing else. -/
theorem Filed.keeps_deduplicate (h : r.Filed) : r.Keeps r.deduplicate where
  single op hop := by
    obtain ⟨chosen, hchosen, hkey, -⟩ := exists_mem_deduplicate hop
    exact ⟨chosen, hkey ▸ filter_key_eq_singleton r.nodup_keys_deduplicate hchosen⟩
  first _ hchosen := h.exists_split_of_mem_deduplicate hchosen
  order := by
    have hkept : r.deduplicate.Filed := filed_ofList _
    rw [hkept.entries_eq, h.entries_eq, h.toList_deduplicate]
    exact mostSevere_sublist.map _
  level := h.level_deduplicate

/-- The only operation of a difference has its highest level. -/
private theorem highestOf_eq_level (hnodup : (ops.map Operation.key).Nodup) (hop : op ∈ ops) :
    op.level = highestOf ops op.key := by
  rw [highestOf, filter_key_eq_singleton hnodup hop, List.map_singleton, Level.highest_singleton]

/-- Where one operation is kept for each difference, nothing is left to pick. -/
theorem Filed.deduplicate_deduplicate (h : r.Filed) :
    r.deduplicate.deduplicate = r.deduplicate := by
  have hnodup := r.nodup_keys_deduplicate
  have hpick : mostSevere r.deduplicate.toList r.deduplicate.toList [] = r.deduplicate.toList :=
    mostSevere_eq_self hnodup (fun _ hop => highestOf_eq_level hnodup hop)
      fun _ _ => List.not_mem_nil
  calc r.deduplicate.deduplicate
      = ofList (mostSevere r.deduplicate.toList r.deduplicate.toList []) := rfl
    _ = ofList (mostSevere r.toList r.toList []) := by rw [hpick, h.toList_deduplicate]
    _ = r.deduplicate := rfl

/-! ## Merging both ways -/

/-- Of the operations of a difference at its highest level the one that is kept is in the first
cell. -/
private theorem Filed.compare_cellOf_ne_gt (h : r.Filed) (hchosen : chosen ∈ r.deduplicate.toList)
    (hop : op ∈ r.toList) (hkey : op.key = chosen.key) (hlevel : op.level = chosen.level) :
    compare (cellOf chosen) (cellOf op) ≠ .gt := by
  obtain ⟨front, back, hsplit, -, hfront⟩ := h.exists_split_of_mem_deduplicate hchosen
  have hordered := h.ordered_toList
  rw [hsplit] at hop hordered
  rcases List.mem_append.mp hop with hop | hop
  · exact absurd (hfront op hop hkey) (by rw [hlevel]; exact Nat.lt_irrefl _)
  · rcases List.mem_cons.mp hop with rfl | hop
    · rw [Std.ReflOrd.compare_self]
      exact nofun
    · exact List.rel_of_pairwise_cons (List.pairwise_append.mp hordered).2.1 hop

/-- Of the same operations in another order those that are kept have the same outlines. -/
private theorem Filed.outline_mem_of_mem (hr : r.Filed) (hs : s.Filed)
    (h : ∀ op, op ∈ r.toList ↔ op ∈ s.toList) (hchosen : chosen ∈ r.deduplicate.toList) :
    chosen.outline ∈ s.deduplicate.toList.map Operation.outline := by
  have hin := mem_of_mem_deduplicate hchosen
  obtain ⟨other, hother, hkey, hle⟩ := exists_mem_deduplicate ((h chosen).mp hin)
  have hotherin := (h other).mpr (mem_of_mem_deduplicate hother)
  have hlevel : other.level = chosen.level :=
    Level.le_antisymm (level_le_of_mem_deduplicate hchosen hotherin hkey) hle
  -- Each of the two is in the first cell of the difference at this level, so it is the same cell.
  have hcell : cellOf other = cellOf chosen := by
    have hthere := hr.compare_cellOf_ne_gt hchosen hotherin hkey hlevel
    have hback := hs.compare_cellOf_ne_gt hother ((h chosen).mp hin) hkey.symm hlevel.symm
    cases hcompare : compare (cellOf other) (cellOf chosen) with
    | lt => exact absurd (Std.OrientedCmp.gt_of_lt hcompare) hthere
    | eq => exact Std.LawfulEqOrd.eq_of_compare hcompare
    | gt => exact absurd hcompare hback
  exact List.mem_map.mpr ⟨other, hother, by rw [Operation.outline, hcell, hkey]; rfl⟩

/-- Reports with the same operations keep operations of the same outlines, in whatever order they
have been filed. -/
theorem Filed.outlines_deduplicate_congr (hr : r.Filed) (hs : s.Filed)
    (h : ∀ op, op ∈ r.toList ↔ op ∈ s.toList) (outline : Cell × Operation.Key) :
    outline ∈ r.deduplicate.toList.map Operation.outline ↔
      outline ∈ s.deduplicate.toList.map Operation.outline := by
  constructor
  · intro hin
    obtain ⟨chosen, hchosen, rfl⟩ := List.mem_map.mp hin
    exact hr.outline_mem_of_mem hs h hchosen
  · intro hin
    obtain ⟨chosen, hchosen, rfl⟩ := List.mem_map.mp hin
    exact hs.outline_mem_of_mem hr (fun op => (h op).symm) hchosen

/-! ## Reports that can be made -/

/-- Keeping one operation for each difference, in a report that is made by the operations on reports:
of each difference exactly one operation is left, the first of the most severe in the order of the
report. The order is kept and so is the level, a second time changes nothing, and of two reports that
are merged either way round the same contexts, levels and differences are left. -/
theorem Built.deduplicate_keeps_firsts (h : r.Built) :
    r.Keeps r.deduplicate ∧ r.deduplicate.deduplicate = r.deduplicate ∧
      ∀ s, s.Built → ∀ outline, outline ∈ (r.merge s).deduplicate.toList.map Operation.outline ↔
        outline ∈ (s.merge r).deduplicate.toList.map Operation.outline := by
  refine ⟨h.filed.keeps_deduplicate, h.filed.deduplicate_deduplicate, fun s hs => ?_⟩
  refine (h.filed.merge hs.filed).outlines_deduplicate_congr (hs.filed.merge h.filed) fun op => ?_
  rw [mem_toList_merge, mem_toList_merge, or_comm]

/-- The operation for a column that was lost, at a level, in a context and from a file. -/
private def lost (level : Level) (context : Context) (file : String) : Operation :=
  ⟨.database .columnRemove, "DB107", level, context, "t/c", ⟨file⟩, "Column was removed"⟩

/-- A difference that is reported in three contexts for two spellings of one file is left once: in
the first context in which it is most severe, although it was filed last there. The same is left if
a patch is merged in, from either side. -/
theorem Built.deduplicate_keeps_firsts_contexts :
    let r := ofList [lost .major (.custom "b") "m/x.json", lost .minor .database "m/x.json",
      lost .major (.custom "a") "m//x.json"]
    let patch := ofList [lost .patch .less "m/x.json"]
    r.Keeps r.deduplicate ∧ r.deduplicate.toList = [lost .major (.custom "a") "m//x.json"] ∧
      (patch.merge r).deduplicate.toList.map Operation.outline =
        [(lost .major (.custom "a") "m/x.json").outline] ∧
      (lost .major (.custom "a") "m/x.json").outline ∈
        (r.merge patch).deduplicate.toList.map Operation.outline := by
  intro r patch
  have hr : r.Built := .addAll _ .empty
  obtain ⟨hkeeps, -, hmerge⟩ := hr.deduplicate_keeps_firsts
  have hleft : (patch.merge r).deduplicate.toList.map Operation.outline =
      [(lost .major (.custom "a") "m/x.json").outline] := by decide +kernel
  refine ⟨hkeeps, by decide +kernel, hleft, (hmerge patch (.addAll _ .empty) _).mpr ?_⟩
  rw [hleft]
  exact List.mem_singleton_self _

end Report

end VersionBump
