import VersionBump.Proofs.PublishedPairs
import VersionBump.Proofs.RecordedOperations

/-!
# Removals from the published surface

Whatever was published before and is not any more is in the report as a major operation: class-likes
that are gone or lost their mark, and members that are gone or are no longer published. It does not
matter in which class of the division the class-like stands, nor that the comparison of all
declarations finds the same difference as a patch.

* `MemberFamily.removed_mem` and `MemberFamily.membershipRemoved_mem` find a lost member among the
  findings on its class-like.
* `assess_records_removals` finds everything in the report.
-/

namespace VersionBump

namespace Php

/-! ## Findings -/

section Members

variable {α : Type} {f : MemberFamily α} {p : Pair} {r : Findings} {m : α}

/-- If the members of one key are neither there afterwards nor inherited and one of them was
published, then one of them is among the findings. -/
theorem MemberFamily.exists_removed_mem (hf : f.Compared)
    (hr : memberFindings p ⟨p.before.value.surface?, p.after.value.surface?⟩ = .ok r)
    (hm : m ∈ f.members p.before.value) (hpub : f.Publishes p.before.value m)
    (hgone : ∀ n ∈ f.members p.after.value, f.key n = f.key m → ¬ f.Shared n)
    (hinherited : ∀ n ∈ f.members p.before.value, f.key n = f.key m →
      f.inherited? p.setting.after p.after.value n = none) :
    ∃ n ∈ f.members p.before.value, f.key n = f.key m ∧
      p.op f.removed (p.target (f.label n)) p.before.location ∈ r.changes := by
  obtain ⟨division, happlied, hsub⟩ := hf p r hr
  obtain ⟨e, hbefore⟩ := f.exists_find?_publishedView hm hpub
  obtain ⟨hlocation, hin, -, hkey⟩ := f.of_find?_publishedView hbefore
  have hafter : (f.views p).publishedAfter.find? (f.key m) = none := by
    refine Option.eq_none_iff_forall_ne_some.mpr fun n hn => ?_
    obtain ⟨-, hin, hpubn, hkey⟩ := f.of_find?_publishedView hn
    exact hgone n.value hin hkey (MemberFamily.Publishes.shared f hpubn)
  have hall : (f.views p).allAfter.find? (f.key m) = none := by
    refine Option.eq_none_iff_forall_ne_some.mpr fun n hn => ?_
    obtain ⟨-, hin, hshared, hkey⟩ := f.of_find?_allView hn
    exact hgone n.value hin hkey hshared
  obtain ⟨part, hrule, hpart⟩ := happlied.removed (f.key m) e
    ((f.views p).mem_fullyRemoved.mpr ⟨hbefore, hafter, hall⟩)
  rw [f.removed_of_none p _ e (hinherited e.value hin hkey), hlocation] at hrule
  cases hrule
  exact ⟨e.value, hin, hkey, hsub.changes _ (hpart.changes _ (List.mem_singleton.mpr rfl))⟩

/-- A published member that is neither there afterwards nor inherited is among the findings. -/
theorem MemberFamily.removed_mem (hf : f.Compared)
    (hr : memberFindings p ⟨p.before.value.surface?, p.after.value.surface?⟩ = .ok r)
    (hb : f.UniqueKeys p.before.value) (hm : m ∈ f.members p.before.value)
    (hpub : f.Publishes p.before.value m)
    (hgone : ∀ n ∈ f.members p.after.value, f.key n = f.key m → ¬ f.Shared n)
    (hinherited : f.inherited? p.setting.after p.after.value m = none) :
    p.op f.removed (p.target (f.label m)) p.before.location ∈ r.changes := by
  have hsame : ∀ n ∈ f.members p.before.value, f.key n = f.key m → n = m :=
    fun n hn hkey => hb.eq f hn hm hkey
  obtain ⟨n, hn, hkey, hop⟩ := exists_removed_mem hf hr hm hpub hgone fun n hn hkey =>
    hsame n hn hkey ▸ hinherited
  exact hsame n hn hkey ▸ hop

/-- A published member that is still there afterwards but not published is among the findings. -/
theorem MemberFamily.membershipRemoved_mem (hf : f.Compared)
    (hr : memberFindings p ⟨p.before.value.surface?, p.after.value.surface?⟩ = .ok r)
    (hb : f.UniqueKeys p.before.value) (ha : f.UniqueKeys p.after.value)
    (hm : m ∈ f.members p.before.value) (hpub : f.Publishes p.before.value m) {n : α}
    (hn : n ∈ f.members p.after.value) (hkey : f.key n = f.key m) (hshared : f.Shared n)
    (hunpub : ¬ f.Publishes p.after.value n) :
    p.op (.membershipRemoved f.part) (p.target (f.label m)) p.after.location ∈ r.membership := by
  obtain ⟨division, happlied, hsub⟩ := hf p r hr
  have hbefore : (f.views p).publishedBefore.find? (f.key m) = some ⟨m, p.before.location⟩ :=
    (f.find?_publishedView hb).mpr ⟨rfl, hm, hpub, rfl⟩
  have hafter : (f.views p).publishedAfter.find? (f.key m) = none := by
    refine Option.eq_none_iff_forall_ne_some.mpr fun other hother => ?_
    obtain ⟨-, hin, hpubo, hkeyo⟩ := (f.find?_publishedView ha).mp hother
    obtain rfl : other.value = n := ha.eq f hin hn (hkeyo.trans hkey.symm)
    exact hunpub hpubo
  have hall : (f.views p).allAfter.find? (f.key m) = some ⟨n, p.after.location⟩ :=
    (f.find?_allView ha).mpr ⟨rfl, hn, hshared, hkey⟩
  obtain ⟨part, hrule, hin⟩ := happlied.membershipRemoved (f.key m) ⟨m, p.before.location⟩
    ⟨n, p.after.location⟩ ((f.views p).mem_membershipRemoved.mpr ⟨hbefore, hafter, hall⟩)
  rw [f.membershipRemoved_eq] at hrule
  cases hrule
  exact hsub.membership _ (hin.membership _ (List.mem_singleton.mpr rfl))

end Members

/-! ## Reports -/

/-- A report records the published members of a class-like that are gone, and those that are no
longer published. -/
def MemberFamily.RecordsRemovals {α : Type} (f : MemberFamily α) (report : Report)
    (after : Registry ClassLike) (context : Context) (b a : Located ClassLike) : Prop :=
  ∀ m ∈ f.members b.value, f.Publishes b.value m →
    ((∀ n ∈ f.members a.value, f.key n = f.key m → ¬ f.Shared n) →
      f.inherited? after a.value m = none →
      report.Records context .major (.php f.removed) (a.value.fqn ++ "::" ++ f.label m)
        b.location) ∧
    (∀ n ∈ f.members a.value, f.key n = f.key m → f.Shared n → ¬ f.Publishes a.value n →
      report.Records context .major (.php (.membershipRemoved f.part))
        (a.value.fqn ++ "::" ++ f.label m) a.location)

end Php

section Reports

variable {before after : Snapshot} {r : Assessment} {published : Findings} {unpublished : Report}
  {context : Context} {key : String} {b a : Located Php.ClassLike}

namespace Assessment.Stages

/-- A class-like with a published part that is gone is recorded. -/
theorem records_removed (h : r.Stages {} before after published unpublished)
    (hc : context ∈ Php.contexts) (hfindb : before.php.find? context key = some b)
    (hgone : after.php.find? context key = none) (hpart : b.value.surface? ≠ none) :
    r.report.Records context .major (.php .removed) b.value.fqn b.location :=
  h.records (.inl (Php.removed_mem_changes h.publishedDifferences_eq hc hfindb hgone hpart)) rfl

/-- A class-like that is no longer API is recorded. -/
theorem records_unmarked (h : r.Stages {} before after published unpublished)
    (hc : context ∈ Php.contexts) (hfindb : before.php.find? context key = some b)
    (hfinda : after.php.find? context key = some a) (hapi : b.value.isApi = true)
    (hnot : a.value.isApi = false) :
    r.report.Records context .major (.php (.membershipRemoved .declaration)) a.value.fqn
      a.location := by
  obtain ⟨hhead, -⟩ := Php.exists_memberFindings h.publishedDifferences_eq hc hfindb hfinda
    (.inl (Php.ClassLike.surface?_ne_none hapi))
  have hop : Severity.Table.operation {} context (.php (.membershipRemoved .declaration))
      a.value.fqn a.location ∈ published.membership := by
    refine hhead.membership _ ?_
    simp only [Php.headFindings, hapi, hnot, Bool.and_false, Bool.false_eq_true, if_false,
      Php.compareMarks, Php.lostMark, Bool.not_false, Findings.membership_append]
    exact List.mem_append_right _ (List.mem_singleton.mpr rfl)
  exact h.records (.inr hop) rfl

/-- The lost members of a family are recorded. -/
theorem recordsRemovals {α : Type} {f : Php.MemberFamily α}
    (h : r.Stages {} before after published unpublished) (hf : f.Compared) (hc : context ∈ Php.contexts)
    (hfindb : before.php.find? context key = some b) (hfinda : after.php.find? context key = some a)
    (hb : f.UniqueKeys b.value) (ha : f.UniqueKeys a.value) :
    f.RecordsRemovals r.report after.php context b a := by
  intro m hm hpub
  obtain ⟨-, members, hmembers, hsub⟩ := Php.exists_memberFindings h.publishedDifferences_eq hc
    hfindb hfinda (.inl (f.surface?_ne_none hm hpub))
  constructor
  · intro hgone hinherited
    have hop := Php.MemberFamily.removed_mem hf hmembers hb hm hpub hgone hinherited
    exact h.records (.inl (hsub.changes _ hop))
      (f.removed_major (Severity.Column.ofContext context))
  · intro n hn hkey hshared hunpub
    have hop :=
      Php.MemberFamily.membershipRemoved_mem hf hmembers hb ha hm hpub hn hkey hshared hunpub
    refine h.records (.inr (hsub.membership _ hop)) ?_
    cases f.part <;> rfl

end Assessment.Stages

/-- Whatever was published before and is not any more is in the report as a major operation, and
makes the bump a major one. -/
theorem assess_records_removals (huniqueb : before.php.UniqueMemberKeys)
    (huniquea : after.php.UniqueMemberKeys) (hr : assess {} before after = .ok r)
    (hc : context ∈ Php.contexts) (hfindb : before.php.find? context key = some b) :
    (b.value.isApi →
      (after.php.find? context key = none →
        r.report.Records context .major (.php .removed) b.value.fqn b.location) ∧
      (∀ a, after.php.find? context key = some a → a.value.isApi = false →
        r.report.Records context .major (.php (.membershipRemoved .declaration)) a.value.fqn
          a.location)) ∧
    (∀ a, after.php.find? context key = some a →
      Php.methodFamily.RecordsRemovals r.report after.php context b a ∧
      Php.propertyFamily.RecordsRemovals r.report after.php context b a ∧
      Php.constantFamily.RecordsRemovals r.report after.php context b a) ∧
    (∀ kind target location,
      r.report.Records context .major kind target location → r.level = .major) := by
  obtain ⟨published, unpublished, h⟩ := assess_eq_ok_iff.mp hr
  refine ⟨fun hapi => ⟨fun hgone => ?_, fun a hfinda hnot => ?_⟩, fun a hfinda => ?_,
    fun kind target location => h.level_eq_major⟩
  · exact h.records_removed hc hfindb hgone (Php.ClassLike.surface?_ne_none hapi)
  · exact h.records_unmarked hc hfindb hfinda hapi hnot
  · obtain ⟨hbm, hbp, hbc⟩ := huniqueb _ (Registry.value_mem_of_find? hfindb)
    obtain ⟨ham, hap, hac⟩ := huniquea _ (Registry.value_mem_of_find? hfinda)
    exact ⟨h.recordsRemovals Php.compared_methodFamily hc hfindb hfinda hbm ham,
      h.recordsRemovals Php.compared_propertyFamily hc hfindb hfinda hbp hap,
      h.recordsRemovals Php.compared_constantFamily hc hfindb hfinda hbc hac⟩

/-- A snapshot with one class that is API and has the given methods. -/
private def withMethods (methods : List Php.Method) : Snapshot where
  php := Registry.empty.insert .classes "a" { name := "A", kind := .classKind, isApi := true, methods }
    ⟨"a.php.json"⟩

/-- A method that a published class loses is recorded. -/
theorem assess_records_removals_method : ∃ r, assess {} (withMethods [{ name := "run" }])
      (withMethods []) = .ok r ∧
    r.report.Records .classes .major (.php .methodRemoved) "A::run" ⟨"a.php.json"⟩ ∧
    r.level = .major := by
  obtain ⟨r, hr⟩ := exists_eq_ok_of_isOk
    (show (assess {} (withMethods [{ name := "run" }]) (withMethods [])).isOk by decide +kernel)
  obtain ⟨-, hmembers, hlevel⟩ := assess_records_removals (by decide +kernel) (by decide +kernel) hr
    (show Context.classes ∈ Php.contexts by decide)
    (show (withMethods [{ name := "run" }]).php.find? .classes "a" = some _ from rfl)
  have hrecords := ((hmembers _ (show (withMethods []).php.find? .classes "a" = some _ from rfl)).1
    { name := "run" } (by decide) (by decide)).1 (by simp [Php.methodFamily]) rfl
  exact ⟨r, hr, hrecords, hlevel _ _ _ hrecords⟩

end Reports

end VersionBump
