import Mathlib.Data.List.Induction
import VersionBump.Proofs.ReportContents

/-!
# The order of reports

A report lists its operations cell by cell. Operations that come in that order already keep it when
they are filed.

* `Report.Built` are the reports that the operations on reports can make. All of them are filed.
* `Report.entries` lists the operations with their cells.
* `Report.Ordered` are the lists in the order of the cells, `Report.Filed.ordered_toList` says that
  reports are listed so, and `Report.toList_ofList` that filing such a list keeps it.
-/

namespace VersionBump.Report

variable {r : Report} {ops : List Operation}

/-! ## Reports that can be made -/

/-- A report that is made by the operations on reports. -/
inductive Built : Report → Prop where
  | empty : Built empty
  | add {r : Report} (op : Operation) (h : Built r) : Built (r.add op)
  | addAll {r : Report} (ops : List Operation) (h : Built r) : Built (r.addAll ops)
  | merge {r s : Report} (hr : Built r) (hs : Built s) : Built (r.merge s)
  | dampen {r : Report} (h : Built r) : Built r.dampen
  | deduplicate {r : Report} (h : Built r) : Built r.deduplicate

/-- An operation may be filed. -/
theorem Filed.add (h : r.Filed) (op : Operation) : (r.add op).Filed :=
  h.append fun _ ho => by rw [List.mem_singleton.mp ho]; rfl

/-- A list of operations may be filed. -/
theorem Filed.addAll (h : r.Filed) (ops : List Operation) : (r.addAll ops).Filed := by
  induction ops generalizing r with
  | nil => exact h
  | cons op ops ih => exact ih (h.add op)

/-- Whatever is made by the operations on reports is filed. -/
theorem Built.filed (h : r.Built) : r.Filed := by
  induction h with
  | empty => exact filed_empty
  | add op _ ih => exact ih.add op
  | addAll ops _ ih => exact ih.addAll ops
  | merge _ _ ihr ihs => exact ihr.merge ihs
  | dampen _ ih => exact ih.dampen
  | deduplicate => exact filed_ofList _

/-! ## Listing cells -/

/-- All operations in the order of the report, each with its cell. -/
def entries (r : Report) : List (Cell × Operation) :=
  r.cells.toList.flatMap fun e => e.2.map (e.1, ·)

/-- In a filed report every operation stands with its own context and level. -/
theorem Filed.entries_eq (h : r.Filed) : r.entries = r.toList.map fun op => (cellOf op, op) := by
  rw [entries, toList, List.map_flatMap]
  refine List.flatMap_congr fun e he => List.map_congr_left fun op hop => ?_
  rw [h e.1 e.2 (KeyMap.find?_of_mem he) op hop]

/-- Operations are in the order of their cells. -/
def Ordered (ops : List Operation) : Prop :=
  ops.Pairwise fun a b => compare (cellOf a) (cellOf b) ≠ .gt

/-- A filed report is listed in the order of the cells. -/
theorem Filed.ordered_toList (h : r.Filed) : Ordered r.toList := by
  have hcell : ∀ e ∈ r.cells.toList, ∀ op ∈ e.2, cellOf op = e.1 := fun e he =>
    h e.1 e.2 (KeyMap.find?_of_mem he)
  refine List.pairwise_flatMap.mpr ⟨fun e he => ?_, ?_⟩
  · refine List.pairwise_of_forall_mem_list fun a ha b hb => ?_
    rw [hcell e he a ha, hcell e he b hb, Std.ReflOrd.compare_self]
    exact nofun
  · refine List.Pairwise.imp_of_mem (fun {e e'} he he' hlt a ha b hb => ?_) r.cells.sorted
    rw [hcell e he a ha, hcell e' he' b hb, hlt]
    exact nofun

/-! ## Filing lists -/

/-- Values that are put under a key behind all others stand behind all others. -/
private theorem flatMap_updateEntry {κ α : Type} [Ord κ] [Std.TransOrd κ] [Std.LawfulEqOrd κ] {k : κ}
    (xs : List α) {es : List (κ × List α)} (hs : SortedEntries es)
    (h : ∀ e ∈ es, compare e.1 k ≠ .gt) :
    (updateEntry k (fun known => known.getD [] ++ xs) es).flatMap (·.2) = es.flatMap (·.2) ++ xs := by
  induction es with
  | nil => simp [updateEntry]
  | cons e rest ih =>
    obtain ⟨hhead, htail⟩ := List.pairwise_cons.mp hs
    obtain ⟨hle, hrest⟩ := List.forall_mem_cons.mp h
    unfold updateEntry
    split
    case h_1 hlt => exact absurd (Std.OrientedCmp.gt_of_lt hlt) hle
    case h_2 heq =>
      -- Nothing stands behind the entry of a key that no key is greater than.
      obtain rfl : k = e.1 := Std.LawfulEqOrd.eq_of_compare heq
      obtain rfl : rest = [] := List.eq_nil_iff_forall_not_mem.mpr fun e' he' =>
        hrest e' he' (Std.OrientedCmp.gt_of_lt (hhead e' he'))
      simp
    case h_3 =>
      rw [List.flatMap_cons, List.flatMap_cons, ih htail hrest, List.append_assoc]

/-- A list is filed one operation after the other. -/
private theorem ofList_append_singleton (ops : List Operation) (op : Operation) :
    ofList (ops ++ [op]) = (ofList ops).add op := by
  rw [ofList, addAll, List.foldl_append]
  rfl

/-- The cells of a report of a list are those of its operations. -/
private theorem exists_of_mem_cells_ofList {e : Cell × List Operation}
    (h : e ∈ (ofList ops).cells.toList) : ∃ op ∈ ops, cellOf op = e.1 := by
  induction ops using List.reverseRecOn with
  | nil => exact nomatch h
  | append_singleton ops op ih =>
    rw [ofList_append_singleton] at h
    rcases mem_updateEntry h with hcell | hmem
    · exact ⟨op, List.mem_append_right _ List.mem_cons_self, hcell.symm⟩
    · obtain ⟨o, ho, hcell⟩ := ih hmem
      exact ⟨o, List.mem_append_left _ ho, hcell⟩

/-- A list in the order of the cells keeps its order when it is filed. -/
theorem toList_ofList (h : Ordered ops) : (ofList ops).toList = ops := by
  induction ops using List.reverseRecOn with
  | nil => rfl
  | append_singleton ops op ih =>
    obtain ⟨hops, -, hlast⟩ := List.pairwise_append.mp h
    rw [ofList_append_singleton]
    refine (flatMap_updateEntry [op] (KeyMap.sorted _) fun e he => ?_).trans
      (congrArg (· ++ [op]) (ih hops))
    obtain ⟨o, ho, hcell⟩ := exists_of_mem_cells_ofList he
    rw [← hcell]
    exact hlast o ho op List.mem_cons_self

end VersionBump.Report
