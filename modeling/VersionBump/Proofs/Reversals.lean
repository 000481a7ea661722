import Mathlib.Data.List.Perm.Basic
import VersionBump.KeyDiff
import VersionBump.Proofs.DivisionContents
import VersionBump.Severity.Table

/-!
# Reversed comparisons

A comparison may be run backwards, with the later side as the earlier one. What has been added is
then removed, and what is found about one target forwards is found about the same target backwards.
Locations and reasons are those of the side that is looked at and differ.

* `Reversal` is a pair of groups of kinds that change places. `Reversed` says of two lists of
  operations that all groups of a table do, as multisets of targets.
* `KeyDiff.reversed_collect` is the comparison of two maps, run forwards and backwards.
* `Division.reversedRuns_apply` is that of two sides of four views.
-/

namespace VersionBump

/-! ## Operations -/

/-- Two groups of kinds that change places when the sides do. -/
structure Reversal where
  forth : List Change
  back : List Change

/-- A row of a table of reversals, for the kinds of one family. -/
def Reversal.of {κ : Type} (kind : κ → Change) (forth back : List κ) : Reversal :=
  ⟨forth.map kind, back.map kind⟩

/-- A row of kinds that stay as they are, for one family. -/
def Reversal.kept {κ : Type} (kind : κ → Change) (kinds : List κ) : Reversal := .of kind kinds kinds

/-- What the operations of some kinds are about, as often as they say so. -/
def concerns (kinds : List Change) (ops : List Operation) : List (Context × String) :=
  (ops.filter fun op => op.kind ∈ kinds).map fun op => (op.context, op.target)

/-- In each row of the table the two groups of kinds concern the same targets in the two lists, with
the groups in each other's place. -/
def Reversed (table : List Reversal) (ops ops' : List Operation) : Prop :=
  ∀ row ∈ table, (concerns row.forth ops).Perm (concerns row.back ops') ∧
    (concerns row.back ops).Perm (concerns row.forth ops')

/-- Two kinds stand in opposite groups of the same rows. -/
def Change.Reverses (table : List Reversal) (kind kind' : Change) : Prop :=
  ∀ row ∈ table, (kind ∈ row.forth ↔ kind' ∈ row.back) ∧ (kind ∈ row.back ↔ kind' ∈ row.forth)

/-- A kind that stands in no row. -/
def Change.Neutral (table : List Reversal) (kind : Change) : Prop :=
  ∀ row ∈ table, kind ∉ row.forth ∧ kind ∉ row.back

instance (table : List Reversal) (kind kind' : Change) : Decidable (kind.Reverses table kind') :=
  inferInstanceAs (Decidable (∀ row ∈ table, _))

instance (table : List Reversal) (kind : Change) : Decidable (kind.Neutral table) :=
  inferInstanceAs (Decidable (∀ row ∈ table, _))

section Operations

variable {kinds : List Change} {table : List Reversal} {a a' b b' c c' : List Operation}

@[simp] theorem concerns_append (a b : List Operation) :
    concerns kinds (a ++ b) = concerns kinds a ++ concerns kinds b := by
  simp [concerns]

theorem concerns_singleton (op : Operation) :
    concerns kinds [op] = if op.kind ∈ kinds then [(op.context, op.target)] else [] := by
  by_cases h : op.kind ∈ kinds <;> simp [concerns, h]

theorem concerns_flatMap {α : Type} (f : α → List Operation) (xs : List α) :
    concerns kinds (xs.flatMap f) = xs.flatMap fun x => concerns kinds (f x) := by
  induction xs with
  | nil => rfl
  | cons x xs ih => rw [List.flatMap_cons, concerns_append, ih, List.flatMap_cons]

theorem concerns_perm (h : a.Perm b) : (concerns kinds a).Perm (concerns kinds b) :=
  (h.filter _).map _

/-- Operations of other kinds concern nothing. -/
theorem concerns_eq_nil (h : ∀ op ∈ a, op.kind ∉ kinds) : concerns kinds a = [] := by
  rw [concerns, List.filter_eq_nil_iff.mpr fun op hop => by simpa using h op hop, List.map_nil]

namespace Reversed

theorem nil : Reversed table [] [] := fun _ _ => ⟨.nil, .nil⟩

/-- Going back and forth is the same as going forth and back. -/
theorem symm (h : Reversed table a b) : Reversed table b a := fun row hrow =>
  ⟨(h row hrow).2.symm, (h row hrow).1.symm⟩

theorem append (ha : Reversed table a a') (hb : Reversed table b b') :
    Reversed table (a ++ b) (a' ++ b') := by
  intro row hrow
  simp only [concerns_append]
  exact ⟨(ha row hrow).1.append (hb row hrow).1, (ha row hrow).2.append (hb row hrow).2⟩

/-- The order of operations does not matter. -/
theorem perm (h : Reversed table a b) (hb : b.Perm b') : Reversed table a b' := fun row hrow =>
  ⟨(h row hrow).1.trans (concerns_perm hb), (h row hrow).2.trans (concerns_perm hb)⟩

/-- What is found first forwards may be found second backwards. -/
theorem append_swap (ha : Reversed table a b') (hb : Reversed table b a') :
    Reversed table (a ++ b) (a' ++ b') :=
  (ha.append hb).perm List.perm_append_comm

/-- What is found first forwards may be found second backwards, before all else. -/
theorem exchange (ha : Reversed table a b') (hb : Reversed table b a') (hc : Reversed table c c') :
    Reversed table (a ++ (b ++ c)) (a' ++ (b' ++ c')) := by
  rw [← List.append_assoc, ← List.append_assoc]
  exact (ha.append_swap hb).append hc

theorem flatMap {α : Type} {xs : List α} {f g : α → List Operation}
    (h : ∀ x ∈ xs, Reversed table (f x) (g x)) : Reversed table (xs.flatMap f) (xs.flatMap g) := by
  intro row hrow
  simp only [concerns_flatMap]
  exact ⟨.flatMap_left _ fun x hx => (h x hx row hrow).1,
    .flatMap_left _ fun x hx => (h x hx row hrow).2⟩

theorem map {α : Type} {xs : List α} {f g : α → Operation}
    (h : ∀ x ∈ xs, Reversed table [f x] [g x]) : Reversed table (xs.map f) (xs.map g) := by
  rw [List.map_eq_flatMap, List.map_eq_flatMap]
  exact flatMap h

/-- Operations of reverse kinds about one target. -/
theorem singleton {op op' : Operation} (hkind : op.kind.Reverses table op'.kind)
    (hcontext : op.context = op'.context) (htarget : op.target = op'.target) :
    Reversed table [op] [op'] := by
  intro row hrow
  obtain ⟨hforth, hback⟩ := hkind row hrow
  simp only [concerns_singleton, hforth, hback, hcontext, htarget]
  exact ⟨.refl _, .refl _⟩

/-- Changes of reverse kinds at one target. -/
theorem operation {t t' : Severity.Table} {kind kind' : Change} (h : kind.Reverses table kind')
    (context : Context) (target : String) (location location' : Path) :
    Reversed table [t.operation context kind target location]
      [t'.operation context kind' target location'] :=
  singleton h rfl rfl

/-- Changes of values at one target. -/
theorem valueChange {t t' : Severity.Table} {kind kind' : Change} (h : kind.Reverses table kind')
    (context : Context) (target : String) (location location' : Path) (x y x' y' : String) :
    Reversed table [t.valueChange context kind target location x y]
      [t'.valueChange context kind' target location' x' y'] :=
  singleton h rfl rfl

/-- A choice that is made on the same condition. -/
theorem ite {p q : Prop} [Decidable p] [Decidable q] (hpq : p ↔ q) (ha : Reversed table a a')
    (hb : Reversed table b b') : Reversed table (if p then a else b) (if q then a' else b') := by
  by_cases hp : p
  · rw [if_pos hp, if_pos (hpq.mp hp)]
    exact ha
  · rw [if_neg hp, if_neg (hpq.not.mp hp)]
    exact hb

/-- Operations of kinds that stand in no row may be there or not. -/
theorem of_neutral (ha : ∀ op ∈ a, op.kind.Neutral table) (hb : ∀ op ∈ b, op.kind.Neutral table) :
    Reversed table a b := by
  intro row hrow
  rw [concerns_eq_nil fun op hop => (ha op hop row hrow).1,
    concerns_eq_nil fun op hop => (ha op hop row hrow).2,
    concerns_eq_nil fun op hop => (hb op hop row hrow).1,
    concerns_eq_nil fun op hop => (hb op hop row hrow).2]
  exact ⟨.nil, .nil⟩

end Reversed

end Operations

/-! ## Maps -/

namespace KeyDiff

variable {κ β α : Type} [Ord κ] [Std.LawfulEqOrd κ] {before : KeyMap κ β}
  {after : KeyMap κ α}

/-- Two maps have no entry in common twice. -/
theorem nodup_common : (between before after).common.Nodup := by
  have hnodup : (after.toList.map (·.1)).Nodup := after.nodup_keys
  refine List.Pairwise.filterMap _ (fun e e' hne c hc c' hc' heq => hne ?_)
    (List.pairwise_map.mp hnodup)
  obtain ⟨b, -, rfl⟩ := Option.map_eq_some_iff.mp hc
  obtain ⟨b', -, rfl⟩ := Option.map_eq_some_iff.mp hc'
  exact (Prod.mk.inj heq).1

/-- Backwards two maps have the same in common. -/
theorem common_perm : (between after before).common.Perm
    ((between before after).common.map fun e => (e.1, e.2.2, e.2.1)) := by
  have hinjective : Function.Injective fun e : κ × β × α => (e.1, e.2.2, e.2.1) := by
    rintro ⟨k, b, a⟩ ⟨k', b', a'⟩ h
    cases h
    rfl
  -- Neither list has an entry twice, so that the same entries are enough.
  refine (List.perm_ext_iff_of_nodup nodup_common (nodup_common.map hinjective)).mpr ?_
  rintro ⟨k, a, b⟩
  rw [mem_common, List.mem_map]
  constructor
  · rintro ⟨ha, hb⟩
    exact ⟨(k, b, a), mem_common.mpr ⟨hb, ha⟩, rfl⟩
  · rintro ⟨⟨k', b', a'⟩, h, heq⟩
    cases heq
    exact (mem_common.mp h).symm

/-- The comparison of two maps is reversed if what is added is removed backwards, what is removed
is added, and what is common is compared in reverse. -/
theorem reversed_collect {table : List Reversal} {added removed' : κ → α → List Operation}
    {removed added' : κ → β → List Operation} {common : κ → β → α → List Operation}
    {common' : κ → α → β → List Operation}
    (hadded : ∀ k a, after.find? k = some a → Reversed table (added k a) (removed' k a))
    (hremoved : ∀ k b, before.find? k = some b → Reversed table (removed k b) (added' k b))
    (hcommon : ∀ k b a, before.find? k = some b → after.find? k = some a →
      Reversed table (common k b a) (common' k a b)) :
    Reversed table ((between before after).collect added removed common)
      ((between after before).collect added' removed' common') := by
  -- What the later map has beyond the earlier one is what the earlier map lacks, backwards.
  have hfirst : Reversed table ((between before after).added.flatMap fun e => added e.1 e.2)
      ((between after before).removed.flatMap fun e => removed' e.1 e.2) :=
    .flatMap fun e he => hadded _ _ (KeyMap.find?_of_mem (List.mem_filter.mp he).1)
  have hsecond : Reversed table ((between before after).removed.flatMap fun e => removed e.1 e.2)
      ((between after before).added.flatMap fun e => added' e.1 e.2) :=
    .flatMap fun e he => hremoved _ _ (KeyMap.find?_of_mem (List.mem_filter.mp he).1)
  have hthird : Reversed table
      ((between before after).common.flatMap fun e => common e.1 e.2.1 e.2.2)
      ((between after before).common.flatMap fun e => common' e.1 e.2.1 e.2.2) := by
    refine Reversed.perm ?_ (common_perm.flatMap_right _).symm
    rw [List.flatMap_map]
    refine .flatMap fun e he => ?_
    obtain ⟨hb, ha⟩ := mem_common.mp he
    exact hcommon _ _ _ hb ha
  exact hfirst.exchange hsecond hthird

end KeyDiff

/-! ## Divisions -/

/-- Findings whose changes are reversed, and whose changes of the published surface are. -/
structure Findings.Reversed (table : List Reversal) (f f' : Findings) : Prop where
  changes : VersionBump.Reversed table f.changes f'.changes
  membership : VersionBump.Reversed table f.membership f'.membership

/-- Two runs that both succeed find the reverse of each other. -/
def ReversedRuns {ε : Type} (table : List Reversal) (x y : Except ε Findings) : Prop :=
  ∀ f f', x = .ok f → y = .ok f' → f.Reversed table f'

/-- The views with the later side as the earlier one. -/
def Views.swap {α : Type} (v : Views α) : Views α :=
  ⟨v.publishedAfter, v.publishedBefore, v.allAfter, v.allBefore⟩

section Divisions

variable {α β ε : Type} {table : List Reversal}

namespace Findings.Reversed

variable {f f' g g' : Findings}

theorem symm (h : f.Reversed table g) : g.Reversed table f := ⟨h.changes.symm, h.membership.symm⟩

theorem append (hf : f.Reversed table f') (hg : g.Reversed table g') :
    (f ++ g).Reversed table (f' ++ g') :=
  ⟨hf.changes.append hg.changes, hf.membership.append hg.membership⟩

/-- Findings without changes of the published surface. -/
theorem ofChanges {ops ops' : List Operation} (h : VersionBump.Reversed table ops ops') :
    (Findings.ofChanges ops).Reversed table (.ofChanges ops') := ⟨h, .nil⟩

/-- Single changes of the published surface. -/
theorem ofMembership {op op' : Operation} (h : VersionBump.Reversed table [op] [op']) :
    (Findings.ofMembership op).Reversed table (.ofMembership op') := ⟨.nil, h⟩

end Findings.Reversed

namespace ReversedRuns

variable {x y : Except ε Findings}

theorem symm (h : ReversedRuns table x y) : ReversedRuns table y x := fun f f' hf hf' =>
  (h f' f hf' hf).symm

theorem ok {f f' : Findings} (h : f.Reversed table f') :
    ReversedRuns table (.ok f : Except ε Findings) (.ok f') := by
  intro g g' hg hg'
  cases hg
  cases hg'
  exact h

end ReversedRuns

/-- Collections over two lists that correspond to each other up to the order are reversed if their
elements are. -/
theorem Findings.reversedRuns_collect {x : α → Except ε Findings} {y : β → Except ε Findings}
    {as : List α} {bs : List β} {g : α → β} (hbs : bs.Perm (as.map g))
    (h : ∀ a ∈ as, ReversedRuns table (x a) (y (g a))) :
    ReversedRuns table (collect x as) (collect y bs) := by
  intro f f' hf hf'
  obtain ⟨hall, rfl⟩ := collect_eq_ok_iff.mp hf
  obtain ⟨hall', rfl⟩ := collect_eq_ok_iff.mp hf'
  have hfound : ∀ a ∈ as, (found (x a)).Reversed table (found (y (g a))) := fun a ha =>
    h a ha _ _ (hall a ha) (hall' (g a) (hbs.mem_iff.mpr (List.mem_map_of_mem ha)))
  constructor
  · refine Reversed.perm ?_ (hbs.flatMap_right _).symm
    rw [List.flatMap_map]
    exact .flatMap fun a ha => (hfound a ha).changes
  · refine Reversed.perm ?_ (hbs.flatMap_right _).symm
    rw [List.flatMap_map]
    exact .flatMap fun a ha => (hfound a ha).membership

/-- What enters the published surface backwards is what leaves it forwards. -/
theorem Views.membershipAdded_swap (v : Views α) : v.swap.divide.membershipAdded =
    v.divide.membershipRemoved.map fun e => (e.1, e.2.2, e.2.1) := by
  simp only [divide, swap, List.map_filterMap]
  refine List.filterMap_congr fun e _ => ?_
  by_cases hc : v.publishedAfter.contains e.1 <;> simp [hc, Function.comp_def]

/-- What leaves the published surface backwards is what enters it forwards. -/
theorem Views.membershipRemoved_swap (v : Views α) : v.swap.divide.membershipRemoved =
    v.divide.membershipAdded.map fun e => (e.1, e.2.2, e.2.1) := by
  simp only [divide, swap, List.map_filterMap]
  refine List.filterMap_congr fun e _ => ?_
  by_cases hc : v.publishedBefore.contains e.1 <;> simp [hc, Function.comp_def]

/-- Rules for the two directions of a comparison that find the reverse of each other in each class
of a division. -/
structure DivisionRules.Reversed (table : List Reversal) (v : Views α)
    (rules rules' : DivisionRules α ε) : Prop where
  added : ∀ key a, (key, a) ∈ v.divide.fullyAdded →
    ReversedRuns table (rules.added key a) (rules'.removed key a)
  removed : ∀ key b, (key, b) ∈ v.divide.fullyRemoved →
    ReversedRuns table (rules.removed key b) (rules'.added key b)
  membershipAdded : ∀ key b a, (key, b, a) ∈ v.divide.membershipAdded →
    ReversedRuns table (rules.membershipAdded key b a) (rules'.membershipRemoved key a b)
  membershipRemoved : ∀ key b a, (key, b, a) ∈ v.divide.membershipRemoved →
    ReversedRuns table (rules.membershipRemoved key b a) (rules'.membershipAdded key a b)
  changed : ∀ key b a, (key, b, a) ∈ v.divide.toVerify →
    ReversedRuns table (rules.changed key b a) (rules'.changed key a b)

/-- The division of the views in the other direction finds the reverse. -/
theorem Division.reversedRuns_apply {v : Views α} {rules rules' : DivisionRules α ε}
    (h : rules.Reversed table v rules') :
    ReversedRuns table (v.divide.apply rules) (v.swap.divide.apply rules') := by
  intro f f' hf hf'
  obtain ⟨added, removed, entered, left, changed, ha, hr, he, hl, hc, rfl⟩ := apply_eq_ok_iff.mp hf
  obtain ⟨added', removed', entered', left', changed', ha', hr', he', hl', hc', rfl⟩ :=
    apply_eq_ok_iff.mp hf'
  -- Each class of the division is a class of the other one, up to the order of the two sides.
  have hsame : ∀ es : List (String × Located α), es.Perm (es.map id) := fun es => by
    rw [List.map_id]
  have hadded : added.Reversed table removed' :=
    Findings.reversedRuns_collect (hsame _) (fun e he => h.added e.1 e.2 he) _ _ ha hr'
  have hremoved : removed.Reversed table added' :=
    Findings.reversedRuns_collect (hsame _) (fun e he => h.removed e.1 e.2 he) _ _ hr ha'
  have hentered : entered.Reversed table left' :=
    Findings.reversedRuns_collect (.of_eq v.membershipRemoved_swap)
      (fun e he => h.membershipAdded e.1 e.2.1 e.2.2 he) _ _ he hl'
  have hleft : left.Reversed table entered' :=
    Findings.reversedRuns_collect (.of_eq v.membershipAdded_swap)
      (fun e he => h.membershipRemoved e.1 e.2.1 e.2.2 he) _ _ hl he'
  have hchanged : changed.Reversed table changed' :=
    -- What is verified is what the published views have in common.
    Findings.reversedRuns_collect KeyDiff.common_perm
      (fun e he => h.changed e.1 e.2.1 e.2.2 he) _ _ hc hc'
  constructor
  · simp only [Findings.changes_append, List.append_assoc]
    exact hadded.changes.exchange hremoved.changes
      (hentered.changes.exchange hleft.changes hchanged.changes)
  · simp only [Findings.membership_append, List.append_assoc]
    exact hadded.membership.exchange hremoved.membership
      (hentered.membership.exchange hleft.membership hchanged.membership)

end Divisions

end VersionBump
