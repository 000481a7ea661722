import VersionBump.Division
import VersionBump.KeyDiff
import VersionBump.Proofs.KeyMapEntries
import VersionBump.Proofs.Outcomes

/-!
# The contents of divisions

Which declarations stand in which class of a division, and how the findings of the classes make up
the findings of the whole.

* `KeyDiff.mem_collect` says where something that two maps are turned into comes from, and
  `KeyDiff.collect_eq_nil_iff` when there is nothing.
* `Views.mem_fullyRemoved` and its neighbours describe a class by look-ups in the four views.
* `Findings.collect_eq_ok_iff` and `Division.apply_eq_ok_iff` take a successful run apart, and
  `Division.Applied` is what it has looked at.
* `Division.apply_divide_eq_empty` is the run over two sides that do not differ.
* `Division.Finds` says where a change comes from, and `Division.mem_changes_of_apply` that the
  changes of a run are what it finds.
-/

namespace VersionBump

/-! ## Findings -/

namespace Findings

/-- What was found, if nothing failed. -/
def found {ε : Type} : Except ε Findings → Findings
  | .ok f => f
  | .error _ => {}

@[simp] theorem found_ok {ε : Type} (f : Findings) : found (.ok f : Except ε Findings) = f := rfl

@[simp] theorem changes_append (a b : Findings) : (a ++ b).changes = a.changes ++ b.changes := rfl

@[simp] theorem membership_append (a b : Findings) :
    (a ++ b).membership = a.membership ++ b.membership := rfl

@[simp] theorem changes_empty : ({} : Findings).changes = [] := rfl

@[simp] theorem membership_empty : ({} : Findings).membership = [] := rfl

@[simp] theorem empty_append (a : Findings) : ({} : Findings) ++ a = a := rfl

@[simp] theorem append_empty (a : Findings) : a ++ {} = a :=
  congrArg₂ Findings.mk (List.append_nil _) (List.append_nil _)

@[simp] theorem changes_ofChanges (ops : List Operation) : (ofChanges ops).changes = ops := rfl

@[simp] theorem membership_ofChanges (ops : List Operation) : (ofChanges ops).membership = [] := rfl

@[simp] theorem changes_ofMembership (op : Operation) : (ofMembership op).changes = [] := rfl

@[simp] theorem membership_ofMembership (op : Operation) : (ofMembership op).membership = [op] := rfl

/-- All that a list of elements leads to. -/
def ofAll {α ε : Type} (f : α → Except ε Findings) (xs : List α) : Findings :=
  ⟨xs.flatMap fun x => (found (f x)).changes, xs.flatMap fun x => (found (f x)).membership⟩

/-- A collection succeeds exactly if every element does, and then finds all that they lead to. -/
theorem collect_eq_ok_iff {α ε : Type} {f : α → Except ε Findings} {xs : List α} {r : Findings} :
    collect f xs = .ok r ↔ (∀ x ∈ xs, f x = .ok (found (f x))) ∧ r = ofAll f xs := by
  induction xs generalizing r with
  | nil =>
    constructor
    · intro h
      cases h
      exact ⟨fun x hx => absurd hx List.not_mem_nil, rfl⟩
    · rintro ⟨-, rfl⟩
      rfl
  | cons x xs ih =>
    cases hx : f x with
    | error e => simp [collect, hx, bind, Except.bind, found]
    | ok first =>
      have hall : ofAll f (x :: xs) = first ++ ofAll f xs := by
        simp only [ofAll, List.flatMap_cons, hx, found_ok]
        rfl
      cases hxs : collect f xs with
      | error e =>
        -- The rest fails, so one of its elements does.
        have hfail : ¬ ∀ y ∈ xs, f y = .ok (found (f y)) := fun h => by
          rw [ih.mpr ⟨h, rfl⟩] at hxs
          exact nomatch hxs
        simp only [collect, hx, hxs, bind, Except.bind, reduceCtorEq, false_iff]
        exact fun h => hfail fun y hy => h.1 y (List.mem_cons_of_mem x hy)
      | ok others =>
        obtain ⟨hothers, rfl⟩ := ih.mp hxs
        simp only [collect, hx, hxs, bind, Except.bind, pure, Except.pure, Except.ok.injEq, hall]
        constructor
        · rintro rfl
          refine ⟨fun y hy => ?_, rfl⟩
          rcases List.mem_cons.mp hy with rfl | hy
          · rw [hx, found_ok]
          · exact hothers y hy
        · exact fun h => h.2.symm

/-- Nothing is found if nothing is found anywhere. -/
theorem collect_eq_empty {α ε : Type} {f : α → Except ε Findings} {xs : List α}
    (h : ∀ x ∈ xs, f x = .ok {}) : collect f xs = .ok {} := by
  induction xs with
  | nil => rfl
  | cons x xs ih =>
    have hx := h x List.mem_cons_self
    have hxs := ih fun y hy => h y (List.mem_cons_of_mem x hy)
    simp only [collect, hx, hxs, bind, Except.bind]
    rfl

/-- One comparison found at least what another found. -/
structure Includes (r part : Findings) : Prop where
  changes : ∀ op ∈ part.changes, op ∈ r.changes
  membership : ∀ op ∈ part.membership, op ∈ r.membership

theorem Includes.trans {a b c : Findings} (hab : a.Includes b) (hbc : b.Includes c) :
    a.Includes c :=
  ⟨fun op h => hab.changes op (hbc.changes op h),
    fun op h => hab.membership op (hbc.membership op h)⟩

theorem includes_left (a b : Findings) : (a ++ b).Includes a :=
  ⟨fun _ h => List.mem_append_left _ h, fun _ h => List.mem_append_left _ h⟩

theorem includes_right (a b : Findings) : (a ++ b).Includes b :=
  ⟨fun _ h => List.mem_append_right _ h, fun _ h => List.mem_append_right _ h⟩

/-- What an element of a collection leads to is found. -/
theorem exists_of_collect {α ε : Type} {f : α → Except ε Findings} {xs : List α} {r : Findings}
    (h : collect f xs = .ok r) {x : α} (hx : x ∈ xs) : ∃ part, f x = .ok part ∧ r.Includes part := by
  obtain ⟨hall, rfl⟩ := collect_eq_ok_iff.mp h
  exact ⟨_, hall x hx, fun _ hop => List.mem_flatMap.mpr ⟨x, hx, hop⟩,
    fun _ hop => List.mem_flatMap.mpr ⟨x, hx, hop⟩⟩

/-- The changes of a collection are those that its elements lead to. -/
theorem mem_changes_of_collect {α ε : Type} {f : α → Except ε Findings} {xs : List α} {r : Findings}
    (h : collect f xs = .ok r) {op : Operation} :
    op ∈ r.changes ↔ ∃ x ∈ xs, ∃ part, f x = .ok part ∧ op ∈ part.changes := by
  obtain ⟨hall, rfl⟩ := collect_eq_ok_iff.mp h
  simp only [ofAll, List.mem_flatMap]
  constructor
  · rintro ⟨x, hx, hop⟩
    exact ⟨x, hx, _, hall x hx, hop⟩
  · rintro ⟨x, hx, part, hpart, hop⟩
    refine ⟨x, hx, ?_⟩
    rw [hpart, found_ok]
    exact hop

end Findings

/-! ## Classes -/

/-- What two maps have in common. -/
theorem KeyDiff.mem_common {κ β α : Type} [Ord κ] [Std.LawfulEqOrd κ] {before : KeyMap κ β}
    {after : KeyMap κ α} {k : κ} {b : β} {a : α} :
    (k, b, a) ∈ (KeyDiff.between before after).common ↔
      before.find? k = some b ∧ after.find? k = some a := by
  simp only [between, List.mem_filterMap, Prod.exists, KeyMap.mem_toList_iff]
  constructor
  · rintro ⟨k', a', ha, h⟩
    obtain ⟨b', hb, heq⟩ := Option.map_eq_some_iff.mp h
    cases heq
    exact ⟨hb, ha⟩
  · rintro ⟨hb, ha⟩
    exact ⟨k, a, ha, by rw [hb, Option.map_some]⟩

/-- What a later map has beyond an earlier one. -/
theorem KeyDiff.mem_added {κ β α : Type} [Ord κ] [Std.LawfulEqOrd κ] {before : KeyMap κ β}
    {after : KeyMap κ α} {k : κ} {a : α} :
    (k, a) ∈ (KeyDiff.between before after).added ↔
      after.find? k = some a ∧ before.find? k = none := by
  rw [between, List.mem_filter, KeyMap.mem_toList_iff, Bool.not_eq_true',
    KeyMap.contains_eq_false_iff]

/-- What an earlier map has beyond a later one. -/
theorem KeyDiff.mem_removed {κ β α : Type} [Ord κ] [Std.LawfulEqOrd κ] {before : KeyMap κ β}
    {after : KeyMap κ α} {k : κ} {b : β} :
    (k, b) ∈ (KeyDiff.between before after).removed ↔
      before.find? k = some b ∧ after.find? k = none := by
  rw [between, List.mem_filter, KeyMap.mem_toList_iff, Bool.not_eq_true',
    KeyMap.contains_eq_false_iff]

/-- What two maps are turned into comes from one of the classes. -/
theorem KeyDiff.mem_collect {κ β α γ : Type} [Ord κ] [Std.LawfulEqOrd κ] {before : KeyMap κ β}
    {after : KeyMap κ α} {added : κ → α → List γ} {removed : κ → β → List γ}
    {common : κ → β → α → List γ} {x : γ} :
    x ∈ (KeyDiff.between before after).collect added removed common ↔
      (∃ k a, after.find? k = some a ∧ before.find? k = none ∧ x ∈ added k a) ∨
      (∃ k b, before.find? k = some b ∧ after.find? k = none ∧ x ∈ removed k b) ∨
      ∃ k b a, before.find? k = some b ∧ after.find? k = some a ∧ x ∈ common k b a := by
  simp only [collect, List.mem_append, List.mem_flatMap, Prod.exists, mem_added, mem_removed,
    mem_common, and_assoc]

/-- Two maps are turned into nothing exactly if they have the same keys and what is common leads to
nothing, where a key of only one map always leads to something. -/
theorem KeyDiff.collect_eq_nil_iff {κ β α γ : Type} [Ord κ] [Std.LawfulEqOrd κ] {before : KeyMap κ β}
    {after : KeyMap κ α} {added : κ → α → List γ} {removed : κ → β → List γ}
    {common : κ → β → α → List γ} (hadded : ∀ k a, added k a ≠ [])
    (hremoved : ∀ k b, removed k b ≠ []) :
    (KeyDiff.between before after).collect added removed common = [] ↔
      ∀ k, (before.find? k).Rel (fun b a => common k b a = []) (after.find? k) := by
  simp only [collect, List.append_eq_nil_iff, List.flatMap_eq_nil_iff, Prod.forall, mem_added,
    mem_removed, mem_common]
  constructor
  · rintro ⟨hnew, hlost, hboth⟩ k
    cases hb : before.find? k with
    | none =>
      cases ha : after.find? k with
      | none => exact .none
      | some a => exact absurd (hnew k a ⟨ha, hb⟩) (hadded k a)
    | some b =>
      cases ha : after.find? k with
      | none => exact absurd (hlost k b ⟨hb, ha⟩) (hremoved k b)
      | some a => exact .some (hboth k b a ⟨hb, ha⟩)
  · intro h
    refine ⟨fun k a ⟨ha, hb⟩ => ?_, fun k b ⟨hb, ha⟩ => ?_, fun k b a ⟨hb, ha⟩ => ?_⟩
    all_goals
      have hk := h k
      rw [hb, ha] at hk
    · exact nomatch hk
    · exact nomatch hk
    · cases hk with
      | some hnothing => exact hnothing

namespace Views

variable {α : Type} (v : Views α)

/-- New altogether: published afterwards, and not there before. -/
theorem mem_fullyAdded {e : String × Located α} :
    e ∈ v.divide.fullyAdded ↔ v.publishedAfter.find? e.1 = some e.2 ∧
      v.publishedBefore.find? e.1 = none ∧ v.allBefore.find? e.1 = none := by
  simp only [divide, List.mem_filter, Bool.and_eq_true, Bool.not_eq_true',
    KeyMap.contains_eq_false_iff, ← KeyMap.mem_toList_iff v.publishedAfter]

/-- Gone altogether: published before, and not there afterwards. -/
theorem mem_fullyRemoved {e : String × Located α} :
    e ∈ v.divide.fullyRemoved ↔ v.publishedBefore.find? e.1 = some e.2 ∧
      v.publishedAfter.find? e.1 = none ∧ v.allAfter.find? e.1 = none := by
  simp only [divide, List.mem_filter, Bool.and_eq_true, Bool.not_eq_true',
    KeyMap.contains_eq_false_iff, ← KeyMap.mem_toList_iff v.publishedBefore]

/-- Entered the published surface: published afterwards only, and there before. -/
theorem mem_membershipAdded {key : String} {b a : Located α} :
    (key, b, a) ∈ v.divide.membershipAdded ↔ v.publishedAfter.find? key = some a ∧
      v.publishedBefore.find? key = none ∧ v.allBefore.find? key = some b := by
  simp only [divide, List.mem_filterMap, Prod.exists, KeyMap.mem_toList_iff,
    ← KeyMap.contains_eq_false_iff]
  constructor
  · rintro ⟨k, x, hx, h⟩
    cases hc : v.publishedBefore.contains k with
    | true => simp [hc] at h
    | false =>
      simp only [hc, Bool.false_eq_true, if_false, Option.map_eq_some_iff, Prod.mk.injEq] at h
      obtain ⟨y, hy, rfl, rfl, rfl⟩ := h
      exact ⟨hx, hc, hy⟩
  · rintro ⟨hafter, hbefore, hall⟩
    exact ⟨key, a, hafter, by simp [hbefore, hall]⟩

/-- Left the published surface: published before only, and still there afterwards. -/
theorem mem_membershipRemoved {key : String} {b a : Located α} :
    (key, b, a) ∈ v.divide.membershipRemoved ↔ v.publishedBefore.find? key = some b ∧
      v.publishedAfter.find? key = none ∧ v.allAfter.find? key = some a := by
  simp only [divide, List.mem_filterMap, Prod.exists, KeyMap.mem_toList_iff,
    ← KeyMap.contains_eq_false_iff]
  constructor
  · rintro ⟨k, x, hx, h⟩
    cases hc : v.publishedAfter.contains k with
    | true => simp [hc] at h
    | false =>
      simp only [hc, Bool.false_eq_true, if_false, Option.map_eq_some_iff, Prod.mk.injEq] at h
      obtain ⟨y, hy, rfl, rfl, rfl⟩ := h
      exact ⟨hx, hc, hy⟩
  · rintro ⟨hbefore, hafter, hall⟩
    exact ⟨key, b, hbefore, by simp [hafter, hall]⟩

/-- To be verified: published on both sides. -/
theorem mem_toVerify {key : String} {b a : Located α} :
    (key, b, a) ∈ v.divide.toVerify ↔
      v.publishedBefore.find? key = some b ∧ v.publishedAfter.find? key = some a :=
  KeyDiff.mem_common

/-- Entries that keep their keys have distinct keys. -/
private theorem nodup_filterMap {β γ : Type} (m : KeyMap String β)
    {f : String × β → Option (String × γ)} (h : ∀ e c, f e = some c → c.1 = e.1) :
    ((m.toList.filterMap f).map (·.1)).Nodup := by
  rw [List.Nodup, List.pairwise_map]
  refine List.Pairwise.filterMap f (fun a b hab c hc d hd => ?_)
    (List.pairwise_map.mp m.nodup_keys)
  rw [h a c hc, h b d hd]
  exact hab

/-- No key stands twice among the keys that entered the published surface. -/
theorem nodup_membershipAdded : (v.divide.membershipAdded.map (·.1)).Nodup := by
  refine nodup_filterMap _ fun e c h => ?_
  split at h
  · exact nomatch h
  · obtain ⟨y, -, rfl⟩ := Option.map_eq_some_iff.mp h
    rfl

/-- No key stands twice among the keys that left the published surface. -/
theorem nodup_membershipRemoved : (v.divide.membershipRemoved.map (·.1)).Nodup := by
  refine nodup_filterMap _ fun e c h => ?_
  split at h
  · exact nomatch h
  · obtain ⟨y, -, rfl⟩ := Option.map_eq_some_iff.mp h
    rfl

/-- No key stands twice among the keys that are to be verified. -/
theorem nodup_toVerify : (v.divide.toVerify.map (·.1)).Nodup := by
  refine nodup_filterMap _ fun e c h => ?_
  obtain ⟨y, -, rfl⟩ := Option.map_eq_some_iff.mp h
  rfl

end Views

/-! ## Running the rules -/

namespace Division

variable {α ε : Type} {d : Division α} {rules : DivisionRules α ε} {r : Findings}

/-- Running the rules succeeds exactly if it does for every class, and then finds what the classes
lead to. -/
theorem apply_eq_ok_iff :
    d.apply rules = .ok r ↔ ∃ added removed entered left changed,
      Findings.collect (fun e => rules.added e.1 e.2) d.fullyAdded = .ok added ∧
      Findings.collect (fun e => rules.removed e.1 e.2) d.fullyRemoved = .ok removed ∧
      Findings.collect (fun e => rules.membershipAdded e.1 e.2.1 e.2.2) d.membershipAdded =
        .ok entered ∧
      Findings.collect (fun e => rules.membershipRemoved e.1 e.2.1 e.2.2) d.membershipRemoved =
        .ok left ∧
      Findings.collect (fun e => rules.changed e.1 e.2.1 e.2.2) d.toVerify = .ok changed ∧
      r = added ++ removed ++ entered ++ left ++ changed := by
  unfold apply
  constructor
  · intro h
    obtain ⟨added, hadded, h⟩ := exists_of_bind_eq_ok h
    obtain ⟨removed, hremoved, h⟩ := exists_of_bind_eq_ok h
    obtain ⟨entered, hentered, h⟩ := exists_of_bind_eq_ok h
    obtain ⟨left, hleft, h⟩ := exists_of_bind_eq_ok h
    obtain ⟨changed, hchanged, h⟩ := exists_of_bind_eq_ok h
    cases h
    exact ⟨added, removed, entered, left, changed, hadded, hremoved, hentered, hleft, hchanged, rfl⟩
  · rintro ⟨added, removed, entered, left, changed, ha, hr, he, hl, hc, rfl⟩
    simp only [ha, hr, he, hl, hc, bind, Except.bind, pure, Except.pure]

/-- Where the same keys are published on both sides, everything is verified; if that finds nothing,
nothing is found. -/
theorem apply_divide_eq_empty {v : Views α}
    (hkeys : ∀ key, v.publishedBefore.find? key = none ↔ v.publishedAfter.find? key = none)
    (hchanged : ∀ key b a, v.publishedBefore.find? key = some b →
      v.publishedAfter.find? key = some a → rules.changed key b a = .ok {}) :
    v.divide.apply rules = .ok {} := by
  refine apply_eq_ok_iff.mpr ⟨{}, {}, {}, {}, {}, ?_, ?_, ?_, ?_, ?_, rfl⟩ <;>
    refine Findings.collect_eq_empty fun e he => ?_
  · obtain ⟨hafter, hbefore, -⟩ := v.mem_fullyAdded.mp he
    rw [(hkeys e.1).mp hbefore] at hafter
    exact nomatch hafter
  · obtain ⟨hbefore, hafter, -⟩ := v.mem_fullyRemoved.mp he
    rw [(hkeys e.1).mpr hafter] at hbefore
    exact nomatch hbefore
  · obtain ⟨hafter, hbefore, -⟩ := v.mem_membershipAdded.mp he
    rw [(hkeys e.1).mp hbefore] at hafter
    exact nomatch hafter
  · obtain ⟨hbefore, hafter, -⟩ := v.mem_membershipRemoved.mp he
    rw [(hkeys e.1).mpr hafter] at hbefore
    exact nomatch hbefore
  · obtain ⟨hbefore, hafter⟩ := v.mem_toVerify.mp he
    exact hchanged _ _ _ hbefore hafter

/-- Every declaration of every class has been looked at, and what its rule found is found. -/
structure Applied (d : Division α) (rules : DivisionRules α ε) (r : Findings) : Prop where
  added : ∀ key a, (key, a) ∈ d.fullyAdded → ∃ part, rules.added key a = .ok part ∧ r.Includes part
  removed : ∀ key b, (key, b) ∈ d.fullyRemoved →
    ∃ part, rules.removed key b = .ok part ∧ r.Includes part
  membershipAdded : ∀ key b a, (key, b, a) ∈ d.membershipAdded →
    ∃ part, rules.membershipAdded key b a = .ok part ∧ r.Includes part
  membershipRemoved : ∀ key b a, (key, b, a) ∈ d.membershipRemoved →
    ∃ part, rules.membershipRemoved key b a = .ok part ∧ r.Includes part
  changed : ∀ key b a, (key, b, a) ∈ d.toVerify →
    ∃ part, rules.changed key b a = .ok part ∧ r.Includes part

/-- A successful run looks at every declaration of every class. -/
theorem applied_of_apply (h : d.apply rules = .ok r) : d.Applied rules r := by
  obtain ⟨added, removed, entered, left, changed, ha, hr, he, hl, hc, rfl⟩ := apply_eq_ok_iff.mp h
  refine ⟨fun key a hin => ?_, fun key b hin => ?_, fun key b a hin => ?_, fun key b a hin => ?_,
    fun key b a hin => ?_⟩
  · obtain ⟨part, hpart, hsub⟩ := Findings.exists_of_collect ha hin
    exact ⟨part, hpart, ((((Findings.includes_left _ _).trans (Findings.includes_left _ _)).trans
      (Findings.includes_left _ _)).trans (Findings.includes_left _ _)).trans hsub⟩
  · obtain ⟨part, hpart, hsub⟩ := Findings.exists_of_collect hr hin
    exact ⟨part, hpart, ((((Findings.includes_left _ _).trans (Findings.includes_left _ _)).trans
      (Findings.includes_left _ _)).trans (Findings.includes_right _ _)).trans hsub⟩
  · obtain ⟨part, hpart, hsub⟩ := Findings.exists_of_collect he hin
    exact ⟨part, hpart, (((Findings.includes_left _ _).trans (Findings.includes_left _ _)).trans
      (Findings.includes_right _ _)).trans hsub⟩
  · obtain ⟨part, hpart, hsub⟩ := Findings.exists_of_collect hl hin
    exact ⟨part, hpart, ((Findings.includes_left _ _).trans (Findings.includes_right _ _)).trans hsub⟩
  · obtain ⟨part, hpart, hsub⟩ := Findings.exists_of_collect hc hin
    exact ⟨part, hpart, (Findings.includes_right _ _).trans hsub⟩

/-- The rule of some class finds the change at a declaration in it. -/
inductive Finds (d : Division α) (rules : DivisionRules α ε) (op : Operation) : Prop
  | added {key a part} (hin : (key, a) ∈ d.fullyAdded) (hrule : rules.added key a = .ok part)
      (hop : op ∈ part.changes)
  | removed {key b part} (hin : (key, b) ∈ d.fullyRemoved) (hrule : rules.removed key b = .ok part)
      (hop : op ∈ part.changes)
  | entered {key b a part} (hin : (key, b, a) ∈ d.membershipAdded)
      (hrule : rules.membershipAdded key b a = .ok part) (hop : op ∈ part.changes)
  | left {key b a part} (hin : (key, b, a) ∈ d.membershipRemoved)
      (hrule : rules.membershipRemoved key b a = .ok part) (hop : op ∈ part.changes)
  | changed {key b a part} (hin : (key, b, a) ∈ d.toVerify)
      (hrule : rules.changed key b a = .ok part) (hop : op ∈ part.changes)

/-- The changes of a successful run are those that the rules find. -/
theorem mem_changes_of_apply (h : d.apply rules = .ok r) {op : Operation} :
    op ∈ r.changes ↔ d.Finds rules op := by
  obtain ⟨added, removed, entered, left, changed, ha, hr, he, hl, hc, rfl⟩ := apply_eq_ok_iff.mp h
  simp only [Findings.changes_append, List.mem_append, Findings.mem_changes_of_collect ha,
    Findings.mem_changes_of_collect hr, Findings.mem_changes_of_collect he,
    Findings.mem_changes_of_collect hl, Findings.mem_changes_of_collect hc]
  constructor
  · rintro ((((⟨e, hin, part, hrule, hop⟩ | ⟨e, hin, part, hrule, hop⟩) |
      ⟨e, hin, part, hrule, hop⟩) | ⟨e, hin, part, hrule, hop⟩) | ⟨e, hin, part, hrule, hop⟩)
    · exact .added hin hrule hop
    · exact .removed hin hrule hop
    · exact .entered hin hrule hop
    · exact .left hin hrule hop
    · exact .changed hin hrule hop
  · intro hfinds
    cases hfinds with
    | added hin hrule hop => exact .inl (.inl (.inl (.inl ⟨_, hin, _, hrule, hop⟩)))
    | removed hin hrule hop => exact .inl (.inl (.inl (.inr ⟨_, hin, _, hrule, hop⟩)))
    | entered hin hrule hop => exact .inl (.inl (.inr ⟨_, hin, _, hrule, hop⟩))
    | left hin hrule hop => exact .inl (.inr ⟨_, hin, _, hrule, hop⟩)
    | changed hin hrule hop => exact .inr ⟨_, hin, _, hrule, hop⟩

end Division

end VersionBump
