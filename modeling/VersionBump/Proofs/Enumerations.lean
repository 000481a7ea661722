import Mathlib.Data.List.Nodup
import VersionBump.Proofs.DivisionContents

/-!
# Enumerations

A list of operations often has one operation for each thing of some kind, and no other. Such lists
are put together from parts that enumerate different things.

* `Enumerates` is the property.
* `Enumerates.append`, `Enumerates.flatMap` and `Enumerates.map` put enumerations together.
* `Division.exists_membership_eq` and `Findings.enumerates_of_collect` read the changes of the
  published surface off a division.
-/

namespace VersionBump

/-- The list has one operation for each index with the property, and no other. -/
def Enumerates {ι : Type} (ops : List Operation) (op : ι → Operation) (P : ι → Prop) : Prop :=
  ∃ is : List ι, is.Nodup ∧ (∀ i, i ∈ is ↔ P i) ∧ ops = is.map op

namespace Enumerates

variable {ι κ : Type} {ops ops' : List Operation} {op : ι → Operation} {P Q : ι → Prop}

/-- Where there is nothing to enumerate the list is empty. -/
theorem nil (h : ∀ i, ¬ P i) : Enumerates [] op P :=
  ⟨[], List.nodup_nil, fun i => by simp [h i], rfl⟩

/-- A single thing is enumerated by a single operation. -/
theorem singleton (i : ι) : Enumerates [op i] op (· = i) :=
  ⟨[i], List.nodup_singleton i, fun _ => List.mem_singleton, rfl⟩

/-- A property may be replaced by an equivalent one. -/
theorem congr (h : Enumerates ops op P) (hpq : ∀ i, P i ↔ Q i) : Enumerates ops op Q := by
  obtain ⟨is, hnodup, hmem, hops⟩ := h
  exact ⟨is, hnodup, fun i => (hmem i).trans (hpq i), hops⟩

/-- Two lists enumerate what either of them does, if they have nothing in common. -/
theorem append (h : Enumerates ops op P) (h' : Enumerates ops' op Q) (hdisjoint : ∀ i, P i → ¬ Q i) :
    Enumerates (ops ++ ops') op fun i => P i ∨ Q i := by
  obtain ⟨is, hnodup, hmem, rfl⟩ := h
  obtain ⟨js, hnodup', hmem', rfl⟩ := h'
  refine ⟨is ++ js, hnodup.append hnodup' fun i hi hj => ?_, fun i => ?_, List.map_append.symm⟩
  · exact hdisjoint i ((hmem i).mp hi) ((hmem' i).mp hj)
  · rw [List.mem_append, hmem, hmem']

/-- What is made of distinct keys enumerates what belongs to one of the keys. -/
theorem flatMap {keys : List κ} (hnodup : keys.Nodup) {f : κ → List Operation} {R : κ → ι → Prop}
    (h : ∀ k ∈ keys, Enumerates (f k) op (R k))
    (hdisjoint : ∀ k ∈ keys, ∀ k' ∈ keys, ∀ i, R k i → R k' i → k = k') :
    Enumerates (keys.flatMap f) op fun i => ∃ k ∈ keys, R k i := by
  induction keys with
  | nil => exact nil fun i hi => by simp at hi
  | cons k keys ih =>
    obtain ⟨hk, hnodup⟩ := List.nodup_cons.mp hnodup
    have hfirst := h k List.mem_cons_self
    have hrest := ih hnodup (fun k' hk' => h k' (List.mem_cons_of_mem k hk'))
      fun k hk k' hk' => hdisjoint k (List.mem_cons_of_mem _ hk) k' (List.mem_cons_of_mem _ hk')
    rw [List.flatMap_cons]
    refine (hfirst.append hrest fun i hi hin => ?_).congr fun i => by simp
    obtain ⟨k', hk', hi'⟩ := hin
    obtain rfl := hdisjoint k List.mem_cons_self k' (List.mem_cons_of_mem k hk') i hi hi'
    exact hk hk'

/-- Things may be seen as others if they are told apart. -/
theorem map {g : κ → ι} {R : κ → Prop} (hg : Function.Injective g)
    (h : Enumerates ops (fun k => op (g k)) R) : Enumerates ops op fun i => ∃ k, R k ∧ g k = i := by
  obtain ⟨ks, hnodup, hmem, rfl⟩ := h
  refine ⟨ks.map g, hnodup.map hg, fun i => ?_, by rw [List.map_map]; rfl⟩
  rw [List.mem_map]
  exact exists_congr fun k => and_congr_left fun _ => hmem k

end Enumerates

/-! ## Changes of the published surface -/

section Memberships

variable {ι ε : Type} {op : ι → Operation} {r : Findings}

/-- If no element leads to a change of the published surface, then a collection has none. -/
theorem Findings.membership_eq_nil_of_collect {α : Type} {f : α → Except ε Findings} {xs : List α}
    (h : collect f xs = .ok r) (hf : ∀ x part, f x = .ok part → part.membership = []) :
    r.membership = [] := by
  obtain ⟨hall, rfl⟩ := collect_eq_ok_iff.mp h
  exact List.flatMap_eq_nil_iff.mpr fun x hx => hf x _ (hall x hx)

/-- A collection enumerates what its elements do, if each stands for something of its own. -/
theorem Findings.enumerates_of_collect {α : Type} {f : α → Except ε Findings} {xs : List α}
    {R : α → ι → Prop} (h : collect f xs = .ok r) (hnodup : xs.Nodup)
    (hf : ∀ x ∈ xs, ∀ part, f x = .ok part → Enumerates part.membership op (R x))
    (hdisjoint : ∀ x ∈ xs, ∀ y ∈ xs, ∀ i, R x i → R y i → x = y) :
    Enumerates r.membership op fun i => ∃ x ∈ xs, R x i := by
  obtain ⟨hall, rfl⟩ := collect_eq_ok_iff.mp h
  exact Enumerates.flatMap hnodup (fun x hx => hf x hx _ (hall x hx)) hdisjoint

/-- What appears or disappears altogether is no change of the published surface. -/
structure DivisionRules.Structural {α : Type} (rules : DivisionRules α ε) : Prop where
  added : ∀ key a part, rules.added key a = .ok part → part.membership = []
  removed : ∀ key b part, rules.removed key b = .ok part → part.membership = []

/-- The changes of the published surface come from what is there on both sides. -/
theorem Division.exists_membership_eq {α : Type} {d : Division α} {rules : DivisionRules α ε}
    (h : d.apply rules = .ok r) (hrules : rules.Structural) :
    ∃ entered left changed,
      Findings.collect (fun e => rules.membershipAdded e.1 e.2.1 e.2.2) d.membershipAdded =
        .ok entered ∧
      Findings.collect (fun e => rules.membershipRemoved e.1 e.2.1 e.2.2) d.membershipRemoved =
        .ok left ∧
      Findings.collect (fun e => rules.changed e.1 e.2.1 e.2.2) d.toVerify = .ok changed ∧
      r.membership = entered.membership ++ (left.membership ++ changed.membership) := by
  obtain ⟨added, removed, entered, left, changed, ha, hr, he, hl, hc, rfl⟩ := apply_eq_ok_iff.mp h
  have hadded := Findings.membership_eq_nil_of_collect ha fun e => hrules.added e.1 e.2
  have hremoved := Findings.membership_eq_nil_of_collect hr fun e => hrules.removed e.1 e.2
  refine ⟨entered, left, changed, he, hl, hc, ?_⟩
  simp only [Findings.membership_append, hadded, hremoved, List.nil_append, List.append_assoc]

end Memberships

end VersionBump
