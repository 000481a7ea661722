import VersionBump.Proofs.AssessmentStages
import VersionBump.Proofs.Enumerations
import VersionBump.Proofs.PublishedPairs
import VersionBump.Proofs.ReportContents
import VersionBump.Proofs.TwinPhpOperations

/-!
# Flips of publication

A class-like or member that is there on both sides flips if it is published on exactly one of them.
The membership report holds one operation for each flip and no other, whatever made the member flip:
its own mark or that of its class-like, and in whatever class of the division the class-like stands.

* `Flip` is what may flip and `Flip.Holds` that it does; `Flip.operation` is the operation for it.
* `MemberFamily.enumerates_flips` is the statement for one family of members of two versions of a
  class-like, `enumerates_pairFindings` for all that belongs to them.
* `membership_report_of_published` is the statement for two registries.
-/

namespace VersionBump.Php

/-! ## What flips -/

namespace MemberFamily

variable {α : Type} (f : MemberFamily α)

/-- Two versions of a member that others can see and of which exactly one is published. -/
structure Flips (b a : ClassLike) (m : α × α) : Prop where
  before_mem : m.1 ∈ f.members b
  after_mem : m.2 ∈ f.members a
  key_eq : f.key m.1 = f.key m.2
  before_shared : f.Shared m.1
  after_shared : f.Shared m.2
  published : ¬ (f.Publishes b m.1 ↔ f.Publishes a m.2)

/-- The operation for two versions of a member that is published on one side only. -/
def flipOp (p : Pair) (m : α × α) : Operation :=
  if f.Publishes p.after.value m.2 then
    p.op (.membershipAdded f.part) (p.target (f.label m.2)) p.after.location
  else p.op (.membershipRemoved f.part) (p.target (f.label m.1)) p.after.location

end MemberFamily

/-- What of a class-like may flip: the class-like itself, or a member in its two versions. -/
inductive Subject where
  | declaration
  | method (versions : Method × Method)
  | property (versions : Property × Property)
  | constant (versions : Constant × Constant)

namespace Subject

/-- Whether the subject is there on both sides and published on exactly one. -/
def Flips (b a : ClassLike) : Subject → Prop
  | .declaration => b.isApi ≠ a.isApi
  | .method versions => methodFamily.Flips b a versions
  | .property versions => propertyFamily.Flips b a versions
  | .constant versions => constantFamily.Flips b a versions

/-- The operation for a flip. -/
def operation (p : Pair) : Subject → Operation
  | .declaration =>
    p.op (if p.after.value.isApi then .membershipAdded .declaration
      else .membershipRemoved .declaration) p.after.value.fqn p.after.location
  | .method versions => methodFamily.flipOp p versions
  | .property versions => propertyFamily.flipOp p versions
  | .constant versions => constantFamily.flipOp p versions

end Subject

/-- A class-like in its versions before and afterwards, and what of it may flip. -/
structure Flip where
  context : Context
  key : String
  before : Located ClassLike
  after : Located ClassLike
  subject : Subject

namespace Flip

/-- The class-like is there on both sides, and the subject flips. -/
structure Holds (s : Setting) (flip : Flip) : Prop where
  context_mem : flip.context ∈ contexts
  before_eq : s.before.find? flip.context flip.key = some flip.before
  after_eq : s.after.find? flip.context flip.key = some flip.after
  flips : flip.subject.Flips flip.before.value flip.after.value

/-- The operation for a flip. -/
def operation (s : Setting) (flip : Flip) : Operation :=
  flip.subject.operation ⟨s, flip.context, flip.before, flip.after⟩

end Flip

/-! ## Members -/

namespace MemberFamily

variable {α : Type} (f : MemberFamily α)

/-- A class of the division enumerates the members in it, if each of them leads to its operation. -/
private theorem enumerates_cell {p : Pair} {r : Findings} {P : α × α → Prop}
    {cell : List (String × Located α × Located α)} (hnodup : (cell.map (·.1)).Nodup)
    {rule : String → Located α → Located α → Except Cycle Findings}
    (h : Findings.collect (fun e => rule e.1 e.2.1 e.2.2) cell = .ok r)
    (hkey : ∀ key b a, (key, b, a) ∈ cell → f.key a.value = key)
    (hrule : ∀ key b a, (key, b, a) ∈ cell →
      rule key b a = .ok (.ofMembership (f.flipOp p (b.value, a.value))))
    (hcell : ∀ m, (∃ e ∈ cell, m = (e.2.1.value, e.2.2.value)) ↔ P m) :
    Enumerates r.membership (f.flipOp p) P := by
  refine (Findings.enumerates_of_collect (R := fun e m => m = (e.2.1.value, e.2.2.value)) h
    (List.Nodup.of_map _ hnodup) ?_ ?_).congr hcell
  · rintro ⟨key, b, a⟩ hin part hpart
    rw [hrule key b a hin] at hpart
    cases hpart
    exact .singleton _
  · rintro ⟨key, b, a⟩ hin ⟨key', b', a'⟩ hin' m rfl heq
    -- The versions of a member tell its key.
    have hvalue : a.value = a'.value := (Prod.mk.inj heq).2
    have hkeys : key = key' := by rw [← hkey key b a hin, ← hkey key' b' a' hin', hvalue]
    exact List.inj_on_of_nodup_map hnodup hin hin' hkeys

variable {p : Pair} {r : Findings} {key : String} {b a : Located α}

/-- What stands in the class of the members that entered the published surface. -/
private theorem of_mem_entered (h : (key, b, a) ∈ (f.views p).divide.membershipAdded) :
    f.key a.value = key ∧ a.location = p.after.location ∧
      f.Flips p.before.value p.after.value (b.value, a.value) ∧
      f.Publishes p.after.value a.value := by
  obtain ⟨hafter, hnone, hall⟩ := (f.views p).mem_membershipAdded.mp h
  obtain ⟨hlocation, hmema, hpub, hkeya⟩ := f.of_find?_publishedView hafter
  obtain ⟨-, hmemb, hshared, hkeyb⟩ := f.of_find?_allView hall
  have hnot : ¬ f.Publishes p.before.value b.value := by
    intro hpubb
    obtain ⟨e, he⟩ := f.exists_find?_publishedView hmemb hpubb
    rw [hkeyb, show (f.publishedView p.before).find? key = none from hnone] at he
    exact nomatch he
  exact ⟨hkeya, hlocation, ⟨hmemb, hmema, hkeyb.trans hkeya.symm, hshared, Publishes.shared f hpub,
    fun hiff => hnot (hiff.mpr hpub)⟩, hpub⟩

/-- What stands in the class of the members that left the published surface. -/
private theorem of_mem_left (h : (key, b, a) ∈ (f.views p).divide.membershipRemoved) :
    f.key a.value = key ∧ f.Flips p.before.value p.after.value (b.value, a.value) ∧
      ¬ f.Publishes p.after.value a.value := by
  obtain ⟨hbefore, hnone, hall⟩ := (f.views p).mem_membershipRemoved.mp h
  obtain ⟨-, hmemb, hpub, hkeyb⟩ := f.of_find?_publishedView hbefore
  obtain ⟨-, hmema, hshared, hkeya⟩ := f.of_find?_allView hall
  have hnot : ¬ f.Publishes p.after.value a.value := by
    intro hpuba
    obtain ⟨e, he⟩ := f.exists_find?_publishedView hmema hpuba
    rw [hkeya, show (f.publishedView p.after).find? key = none from hnone] at he
    exact nomatch he
  exact ⟨hkeya, ⟨hmemb, hmema, hkeyb.trans hkeya.symm, Publishes.shared f hpub, hshared,
    fun hiff => hnot (hiff.mp hpub)⟩, hnot⟩

/-- An unpublished member leaves its key free in the view of the published members. -/
private theorem find?_publishedView_eq_none {c : Located ClassLike} (hc : f.UniqueKeys c.value)
    {m : α} (hm : m ∈ f.members c.value) (hnot : ¬ f.Publishes c.value m) :
    (f.publishedView c).find? (f.key m) = none := by
  refine Option.eq_none_iff_forall_ne_some.mpr fun e he => ?_
  obtain ⟨-, hmem, hpub, hkey⟩ := f.of_find?_publishedView he
  have hsame : e.value = m := hc.eq f hmem hm hkey
  exact hnot (hsame ▸ hpub)

/-- The members that entered the published surface. -/
private theorem enumerates_entered (hb : f.UniqueKeys p.before.value)
    (ha : f.UniqueKeys p.after.value)
    (h : Findings.collect (fun e => (f.rules p).membershipAdded e.1 e.2.1 e.2.2)
      (f.views p).divide.membershipAdded = .ok r) :
    Enumerates r.membership (f.flipOp p) fun m =>
      f.Flips p.before.value p.after.value m ∧ f.Publishes p.after.value m.2 := by
  refine f.enumerates_cell (f.views p).nodup_membershipAdded h
    (fun key b a hin => (f.of_mem_entered hin).1) (fun key b a hin => ?_) fun m => ?_
  · obtain ⟨-, hlocation, -, hpub⟩ := f.of_mem_entered hin
    rw [f.membershipAdded_eq, flipOp, if_pos hpub, hlocation]
  · constructor
    · rintro ⟨⟨key, b, a⟩, hin, rfl⟩
      exact (f.of_mem_entered hin).2.2
    · rintro ⟨hflips, hpub⟩
      refine ⟨(f.key m.1, ⟨m.1, p.before.location⟩, ⟨m.2, p.after.location⟩), ?_, rfl⟩
      refine (f.views p).mem_membershipAdded.mpr ⟨?_, ?_, ?_⟩
      · exact (f.find?_publishedView ha).mpr ⟨rfl, hflips.after_mem, hpub, hflips.key_eq.symm⟩
      · exact f.find?_publishedView_eq_none hb hflips.before_mem fun hpubb =>
          hflips.published (iff_of_true hpubb hpub)
      · exact (f.find?_allView hb).mpr ⟨rfl, hflips.before_mem, hflips.before_shared, rfl⟩

/-- The members that left the published surface. -/
private theorem enumerates_left (hb : f.UniqueKeys p.before.value) (ha : f.UniqueKeys p.after.value)
    (h : Findings.collect (fun e => (f.rules p).membershipRemoved e.1 e.2.1 e.2.2)
      (f.views p).divide.membershipRemoved = .ok r) :
    Enumerates r.membership (f.flipOp p) fun m =>
      f.Flips p.before.value p.after.value m ∧ ¬ f.Publishes p.after.value m.2 := by
  refine f.enumerates_cell (f.views p).nodup_membershipRemoved h
    (fun key b a hin => (f.of_mem_left hin).1) (fun key b a hin => ?_) fun m => ?_
  · obtain ⟨-, -, hnot⟩ := f.of_mem_left hin
    obtain ⟨-, -, hall⟩ := (f.views p).mem_membershipRemoved.mp hin
    obtain ⟨hlocation, -⟩ := f.of_find?_allView hall
    rw [f.membershipRemoved_eq, flipOp, if_neg hnot, hlocation]
  · constructor
    · rintro ⟨⟨key, b, a⟩, hin, rfl⟩
      exact (f.of_mem_left hin).2
    · rintro ⟨hflips, hnot⟩
      refine ⟨(f.key m.1, ⟨m.1, p.before.location⟩, ⟨m.2, p.after.location⟩), ?_, rfl⟩
      refine (f.views p).mem_membershipRemoved.mpr ⟨?_, ?_, ?_⟩
      · have hpub : f.Publishes p.before.value m.1 :=
          Decidable.byContradiction fun hnotb => hflips.published (iff_of_false hnotb hnot)
        exact (f.find?_publishedView hb).mpr ⟨rfl, hflips.before_mem, hpub, rfl⟩
      · rw [hflips.key_eq]
        exact f.find?_publishedView_eq_none ha hflips.after_mem hnot
      · exact (f.find?_allView ha).mpr
          ⟨rfl, hflips.after_mem, hflips.after_shared, hflips.key_eq.symm⟩

/-- Members that appear, disappear or change are no changes of the published surface. -/
structure Structural : Prop where
  rules : ∀ p, (f.rules p).Structural
  changed : ∀ p key b a part, (f.rules p).changed key b a = .ok part → part.membership = []

/-- The changes of the published surface among the members of a family are its flips. -/
theorem enumerates_flips (hf : f.Structural) (hb : f.UniqueKeys p.before.value)
    (ha : f.UniqueKeys p.after.value) (h : (f.views p).divide.apply (f.rules p) = .ok r) :
    Enumerates r.membership (f.flipOp p) (f.Flips p.before.value p.after.value) := by
  obtain ⟨entered, left, changed, hentered, hleft, hchanged, hmembership⟩ :=
    Division.exists_membership_eq h (hf.rules p)
  have hnone := Findings.membership_eq_nil_of_collect hchanged fun e =>
    hf.changed p e.1 e.2.1 e.2.2
  rw [hmembership, hnone, List.append_nil]
  -- Whether a flip is an entry or a departure is told by the later side.
  refine ((f.enumerates_entered hb ha hentered).append (f.enumerates_left hb ha hleft)
    fun m hm hm' => hm'.2 hm.2).congr fun m => ?_
  constructor
  · exact fun hm => hm.elim (·.1) (·.1)
  · exact fun hm => (Decidable.em _).imp (⟨hm, ·⟩) (⟨hm, ·⟩)

end MemberFamily

/-- Methods that appear, disappear or change are no changes of the published surface. -/
private theorem structural_methodFamily : methodFamily.Structural where
  rules p := by
    refine ⟨fun key a part h => ?_, fun key b part h => ?_⟩
    · simp only [methodFamily, methodRules] at h
      split at h
      · cases h
        rfl
      · obtain ⟨differences, _, h⟩ := exists_of_bind_eq_ok h
        cases h
        rfl
    · simp only [methodFamily, methodRules] at h
      split at h
      · cases h
        rfl
      · obtain ⟨differences, _, h⟩ := exists_of_bind_eq_ok h
        cases h
        rfl
  changed p key b a part h := by
    obtain ⟨differences, _, h⟩ := exists_of_bind_eq_ok h
    cases h
    rfl

/-- Properties that appear, disappear or change are no changes of the published surface. -/
private theorem structural_propertyFamily : propertyFamily.Structural where
  rules p := by
    refine ⟨fun key a part h => ?_, fun key b part h => ?_⟩
    · simp only [propertyFamily, propertyRules] at h
      split at h <;> cases h <;> rfl
    · simp only [propertyFamily, propertyRules] at h
      split at h <;> cases h <;> rfl
  changed p key b a part h := by
    cases h
    rfl

/-- Constants that appear, disappear or change are no changes of the published surface. -/
private theorem structural_constantFamily : constantFamily.Structural where
  rules p := by
    refine ⟨fun key a part h => ?_, fun key b part h => ?_⟩
    · simp only [constantFamily, constantRules] at h
      split at h <;> cases h <;> rfl
    · simp only [constantFamily, constantRules] at h
      split at h <;> cases h <;> rfl
  changed p key b a part h := by
    cases h
    rfl

/-! ## Class-likes -/

section Pairs

variable {s : Setting} {context : Context} {b a : Located ClassLike} {r : Findings}

/-- A head changes the published surface exactly if the marks of its versions differ. -/
private theorem membership_headFindings :
    (headFindings s context b a).membership = if b.value.isApi = a.value.isApi then []
      else [Subject.operation ⟨s, context, b, a⟩ .declaration] := by
  cases hb : b.value.isApi <;> cases ha : a.value.isApi <;>
    simp [headFindings, compareMarks, gainedMark, lostMark, Subject.operation, Pair.op, hb, ha]

/-- The changes of the published surface on the heads are the flip of the class-like itself. -/
private theorem enumerates_headFindings :
    Enumerates (headFindings s context b a).membership (Subject.operation ⟨s, context, b, a⟩)
      fun subject => subject = .declaration ∧ b.value.isApi ≠ a.value.isApi := by
  rw [membership_headFindings]
  split
  case isTrue hsame => exact .nil fun subject hflip => hflip.2 hsame
  case isFalse hdiffer => exact (Enumerates.singleton _).congr fun subject => by simp [hdiffer]

/-- The changes of the published surface among the members are the flips of members. -/
private theorem enumerates_memberFindings (hb : b.value.UniqueMemberKeys)
    (ha : a.value.UniqueMemberKeys)
    (h : memberFindings ⟨s, context, b, a⟩ ⟨b.value.surface?, a.value.surface?⟩ = .ok r) :
    Enumerates r.membership (Subject.operation ⟨s, context, b, a⟩)
      fun subject => subject ≠ .declaration ∧ subject.Flips b.value a.value := by
  obtain ⟨methods, properties, constants, hm, hp, hc, rfl⟩ := memberFindings_eq_ok_iff.mp h
  have hmethods : Enumerates methods.membership (Subject.operation ⟨s, context, b, a⟩)
      fun subject =>
        ∃ versions, methodFamily.Flips b.value a.value versions ∧ .method versions = subject :=
    .map (fun _ _ => Subject.method.inj)
      (methodFamily.enumerates_flips structural_methodFamily hb.1 ha.1 hm)
  have hproperties : Enumerates properties.membership (Subject.operation ⟨s, context, b, a⟩)
      fun subject =>
        ∃ versions, propertyFamily.Flips b.value a.value versions ∧ .property versions = subject :=
    .map (fun _ _ => Subject.property.inj)
      (propertyFamily.enumerates_flips structural_propertyFamily hb.2.1 ha.2.1 hp)
  have hconstants : Enumerates constants.membership (Subject.operation ⟨s, context, b, a⟩)
      fun subject =>
        ∃ versions, constantFamily.Flips b.value a.value versions ∧ .constant versions = subject :=
    .map (fun _ _ => Subject.constant.inj)
      (constantFamily.enumerates_flips structural_constantFamily hb.2.2 ha.2.2 hc)
  refine ((hmethods.append hproperties ?_).append hconstants ?_).congr ?_
  · rintro _ ⟨m, -, rfl⟩ ⟨n, -, h⟩
    exact nomatch h
  · rintro _ (⟨m, -, rfl⟩ | ⟨m, -, rfl⟩) ⟨n, -, h⟩ <;> exact nomatch h
  · intro subject
    cases subject <;> simp [Subject.Flips]

/-- The changes of the published surface on two versions of a class-like are its flips. -/
theorem enumerates_pairFindings (hb : b.value.UniqueMemberKeys) (ha : a.value.UniqueMemberKeys)
    (h : pairFindings s context b a = .ok r) :
    Enumerates r.membership (Subject.operation ⟨s, context, b, a⟩)
      fun subject => subject.Flips b.value a.value := by
  obtain ⟨members, hmembers, h⟩ := exists_of_bind_eq_ok h
  cases h
  rw [Findings.membership_append]
  refine (enumerates_headFindings.append (enumerates_memberFindings hb ha hmembers)
    fun subject hhead hmember => hmember.1 hhead.1).congr fun subject => ?_
  cases subject <;> simp [Subject.Flips]

end Pairs

/-! ## Registries -/

/-- What flips belongs to a class-like that has a published part on some side. -/
private theorem Subject.Flips.surface?_ne_none {subject : Subject} {b a : ClassLike}
    (h : subject.Flips b a) : b.surface? ≠ none ∨ a.surface? ≠ none := by
  have hmembers : ∀ {α : Type} (f : MemberFamily α) (m : α × α), f.Flips b a m →
      b.surface? ≠ none ∨ a.surface? ≠ none := by
    intro α f m hm
    by_cases hpub : f.Publishes b m.1
    · exact .inl (f.surface?_ne_none hm.before_mem hpub)
    · have hpub' : f.Publishes a m.2 :=
        Decidable.byContradiction fun hnot => hm.published (iff_of_false hpub hnot)
      exact .inr (f.surface?_ne_none hm.after_mem hpub')
  cases subject with
  | declaration =>
    cases hb : b.isApi with
    | true => exact .inl (ClassLike.surface?_ne_none hb)
    | false =>
      have ha : a.isApi = true := by simpa [Subject.Flips, hb] using h
      exact .inr (ClassLike.surface?_ne_none ha)
  | method versions => exact hmembers methodFamily versions h
  | property versions => exact hmembers propertyFamily versions h
  | constant versions => exact hmembers constantFamily versions h

section Registries

variable {s : Setting} {context : Context} {r : Findings}

/-- A flip in one context. -/
private def HoldsIn (s : Setting) (context : Context) (flip : Flip) : Prop :=
  flip.context = context ∧ s.before.find? context flip.key = some flip.before ∧
    s.after.find? context flip.key = some flip.after ∧
    flip.subject.Flips flip.before.value flip.after.value

/-- A class of the division enumerates the flips of the class-likes in it, if its rule finds what
there is on the two versions. -/
private theorem enumerates_classCell (hb : s.before.UniqueMemberKeys)
    (ha : s.after.UniqueMemberKeys) {Q : Located ClassLike → Located ClassLike → Prop}
    {cell : List (String × Located ClassLike × Located ClassLike)}
    (hnodup : (cell.map (·.1)).Nodup)
    {rule : String → Located ClassLike → Located ClassLike → Except Cycle Findings}
    (h : Findings.collect (fun e => rule e.1 e.2.1 e.2.2) cell = .ok r)
    (hrule : ∀ key b' a', (key, b', a') ∈ cell → ∃ b a, s.before.find? context key = some b ∧
      s.after.find? context key = some a ∧ Q b a ∧ rule key b' a' = pairFindings s context b a)
    (hcell : ∀ key b a, s.before.find? context key = some b → s.after.find? context key = some a →
      Q b a → ∃ b' a', (key, b', a') ∈ cell) :
    Enumerates r.membership (Flip.operation s) fun flip =>
      HoldsIn s context flip ∧ Q flip.before flip.after := by
  refine (Findings.enumerates_of_collect (R := fun e flip => HoldsIn s context flip ∧ flip.key = e.1)
    h (List.Nodup.of_map _ hnodup) ?_ ?_).congr ?_
  · rintro ⟨key, b', a'⟩ hin part hpart
    obtain ⟨b, a, hfindb, hfinda, -, heq⟩ := hrule key b' a' hin
    rw [heq] at hpart
    have hpair := enumerates_pairFindings (hb _ (Registry.value_mem_of_find? hfindb))
      (ha _ (Registry.value_mem_of_find? hfinda)) hpart
    have hinjective : Function.Injective (Flip.mk context key b a) :=
      fun _ _ hsame => (Flip.mk.inj hsame).2.2.2.2
    refine Enumerates.congr (.map hinjective hpair) fun flip => ?_
    constructor
    · rintro ⟨subject, hflips, rfl⟩
      exact ⟨⟨rfl, hfindb, hfinda, hflips⟩, rfl⟩
    · obtain ⟨context', key', before, after, subject⟩ := flip
      rintro ⟨⟨rfl, hbefore, hafter, hflips⟩, rfl⟩
      obtain rfl := Option.some.inj (hfindb.symm.trans hbefore)
      obtain rfl := Option.some.inj (hfinda.symm.trans hafter)
      exact ⟨subject, hflips, rfl⟩
  · rintro e hin e' hin' flip ⟨-, hkey⟩ ⟨-, hkey'⟩
    exact List.inj_on_of_nodup_map hnodup hin hin' (hkey.symm.trans hkey')
  · intro flip
    constructor
    · rintro ⟨⟨key, b', a'⟩, hin, hholds, hkey⟩
      obtain ⟨b, a, hfindb, hfinda, hq, -⟩ := hrule key b' a' hin
      have hbefore := hholds.2.1
      have hafter := hholds.2.2.1
      rw [hkey] at hbefore hafter
      obtain rfl := Option.some.inj (hfindb.symm.trans hbefore)
      obtain rfl := Option.some.inj (hfinda.symm.trans hafter)
      exact ⟨hholds, hq⟩
    · rintro ⟨hholds, hq⟩
      obtain ⟨b', a', hin⟩ := hcell flip.key flip.before flip.after hholds.2.1 hholds.2.2.1 hq
      exact ⟨_, hin, hholds, rfl⟩

/-- What appears or disappears altogether is no change of the published surface. -/
private theorem structural_classRules (s : Setting) (context : Context) :
    (classRules .published s context).Structural where
  added key a part h := by
    cases h
    rfl
  removed key b part h := by
    cases h
    rfl

/-- The changes of the published surface in one context are the flips in it. -/
private theorem enumerates_context (hb : s.before.UniqueMemberKeys) (ha : s.after.UniqueMemberKeys)
    (h : (surfaceViews s context).divide.apply (classRules .published s context) = .ok r) :
    Enumerates r.membership (Flip.operation s) (HoldsIn s context) := by
  obtain ⟨entered, left, changed, hentered, hleft, hchanged, hmembership⟩ :=
    Division.exists_membership_eq h (structural_classRules s context)
  -- The class-likes that have a published part on the later side only, ...
  have henters := enumerates_classCell hb ha
    (Q := fun b a => b.value.surface? = none ∧ a.value.surface? ≠ none)
    (surfaceViews s context).nodup_membershipAdded hentered
    (fun key b' a' hin => by
      obtain ⟨hfindb, hnone, a, part, hfinda, hpart, rfl⟩ := mem_entered_iff.mp hin
      exact ⟨b', a, hfindb, hfinda, ⟨hnone, by simp [hpart]⟩,
        entered_eq_pairFindings hnone hfinda hpart⟩)
    (fun key b a hfindb hfinda hq => by
      obtain ⟨part, hpart⟩ := Option.ne_none_iff_exists'.mp hq.2
      exact ⟨b, _, mem_entered_iff.mpr ⟨hfindb, hq.1, a, part, hfinda, hpart, rfl⟩⟩)
  -- ... on the earlier side only, ...
  have hleaves := enumerates_classCell hb ha
    (Q := fun b a => b.value.surface? ≠ none ∧ a.value.surface? = none)
    (surfaceViews s context).nodup_membershipRemoved hleft
    (fun key b' a' hin => by
      obtain ⟨hfinda, hnone, b, part, hfindb, hpart, rfl⟩ := mem_left_iff.mp hin
      exact ⟨b, a', hfindb, hfinda, ⟨by simp [hpart], hnone⟩,
        left_eq_pairFindings hfindb hpart hnone⟩)
    (fun key b a hfindb hfinda hq => by
      obtain ⟨part, hpart⟩ := Option.ne_none_iff_exists'.mp hq.1
      exact ⟨_, a, mem_left_iff.mpr ⟨hfinda, hq.2, b, part, hfindb, hpart, rfl⟩⟩)
  -- ... and on both.
  have hstays := enumerates_classCell hb ha
    (Q := fun b a => b.value.surface? ≠ none ∧ a.value.surface? ≠ none)
    (surfaceViews s context).nodup_toVerify hchanged
    (fun key b' a' hin => by
      obtain ⟨⟨b, pb, hfindb, hpb, rfl⟩, a, pa, hfinda, hpa, rfl⟩ := mem_verified_iff.mp hin
      exact ⟨b, a, hfindb, hfinda, ⟨by simp [hpb], by simp [hpa]⟩,
        changed_eq_pairFindings hfindb hfinda hpb hpa⟩)
    (fun key b a hfindb hfinda hq => by
      obtain ⟨pb, hpb⟩ := Option.ne_none_iff_exists'.mp hq.1
      obtain ⟨pa, hpa⟩ := Option.ne_none_iff_exists'.mp hq.2
      exact ⟨_, _, mem_verified_iff.mpr ⟨⟨b, pb, hfindb, hpb, rfl⟩, a, pa, hfinda, hpa, rfl⟩⟩)
  rw [hmembership]
  refine (henters.append (hleaves.append hstays ?_) ?_).congr fun flip => ?_
  · exact fun flip hleaves hstays => hstays.2.2 hleaves.2.2
  · exact fun flip henters hothers => hothers.elim (·.2.1 henters.2.1) (·.2.1 henters.2.1)
  · constructor
    · exact fun h => h.elim (·.1) (·.elim (·.1) (·.1))
    · intro hholds
      -- Each way of having a published part is one of the classes.
      have hpart := Subject.Flips.surface?_ne_none hholds.2.2.2
      by_cases hbefore : flip.before.value.surface? = none
      · exact .inl ⟨hholds, hbefore, hpart.resolve_left (absurd hbefore)⟩
      · by_cases hafter : flip.after.value.surface? = none
        · exact .inr (.inl ⟨hholds, hbefore, hafter⟩)
        · exact .inr (.inr ⟨hholds, hbefore, hafter⟩)

/-- The changes of the published surface between two registries are their flips. -/
theorem enumerates_publishedDifferences {found : Findings} (hb : s.before.UniqueMemberKeys)
    (ha : s.after.UniqueMemberKeys)
    (h : publishedDifferences s (publishedSurface s.before) (publishedSurface s.after) =
      .ok found) :
    Enumerates found.membership (Flip.operation s) (Flip.Holds s) := by
  refine (Findings.enumerates_of_collect (R := HoldsIn s) h (by decide)
    (fun context _ part hpart => enumerates_context hb ha hpart) ?_).congr fun flip => ?_
  · rintro context - context' - flip ⟨hcontext, -⟩ ⟨hcontext', -⟩
    exact hcontext.symm.trans hcontext'
  · constructor
    · rintro ⟨context, hmem, rfl, hbefore, hafter, hflips⟩
      exact ⟨hmem, hbefore, hafter, hflips⟩
    · rintro ⟨hmem, hbefore, hafter, hflips⟩
      exact ⟨flip.context, hmem, rfl, hbefore, hafter, hflips⟩

/-- The membership report of two registries holds one operation for each flip and no other, and the
report of changes holds none. -/
theorem membership_report_of_published {found : Findings} (hb : s.before.UniqueMemberKeys)
    (ha : s.after.UniqueMemberKeys)
    (h : publishedDifferences s (publishedSurface s.before) (publishedSurface s.after) =
      .ok found) :
    (∃ flips : List Flip, flips.Nodup ∧ (∀ flip, flip ∈ flips ↔ flip.Holds s) ∧
      (Report.ofList found.membership).toList.Perm (flips.map (Flip.operation s))) ∧
    ∀ op ∈ (Report.ofList found.changes).toList, op.kind.isMembership = false := by
  constructor
  · obtain ⟨flips, hnodup, hmem, hops⟩ := enumerates_publishedDifferences hb ha h
    refine ⟨flips, hnodup, hmem, ?_⟩
    rw [← hops]
    exact Report.toList_ofList_perm _
  · intro op hop
    exact ((issuedBy_publishedDifferences h).changes op (Report.mem_toList_ofList.mp hop)).kind_eq

/-- A class with a method, published or not. -/
private def classWithMethod (isApi : Bool) : Located ClassLike :=
  ⟨{ name := "A", kind := .classKind, isApi, methods := [{ name := "run" }] }, ⟨"a.php.json"⟩⟩

/-- The comparison of a class that is not published with the same class as a published one. -/
private def marking : Setting where
  table := {}
  hierarchy := {}
  before := Registry.empty.insert .classes "a" (classWithMethod false).value ⟨"a.php.json"⟩
  after := Registry.empty.insert .classes "a" (classWithMethod true).value ⟨"a.php.json"⟩

/-- A class that is published later flips, and so does its method. -/
theorem membership_report_of_marking : ∃ found, publishedDifferences marking
      (publishedSurface marking.before) (publishedSurface marking.after) = .ok found ∧
    ∃ flips : List Flip, (Report.ofList found.membership).toList.Perm
        (flips.map (Flip.operation marking)) ∧
      ⟨.classes, "a", classWithMethod false, classWithMethod true, .declaration⟩ ∈ flips ∧
      ⟨.classes, "a", classWithMethod false, classWithMethod true,
        .method ({ name := "run" }, { name := "run" })⟩ ∈ flips := by
  obtain ⟨found, h⟩ := exists_eq_ok_of_isOk (show (publishedDifferences marking
    (publishedSurface marking.before) (publishedSurface marking.after)).isOk by decide +kernel)
  obtain ⟨⟨flips, -, hmem, hperm⟩, -⟩ :=
    membership_report_of_published (by decide +kernel) (by decide +kernel) h
  refine ⟨found, h, flips, hperm, (hmem _).mpr ?_, (hmem _).mpr ?_⟩
  · exact ⟨by decide, rfl, rfl, by simp [Subject.Flips, classWithMethod]⟩
  · refine ⟨by decide, rfl, rfl, ?_⟩
    exact ⟨by decide, by decide, rfl, by decide, by decide, by decide⟩

end Registries

end VersionBump.Php
