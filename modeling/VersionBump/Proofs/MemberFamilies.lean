import Mathlib.Data.List.Nodup
import VersionBump.Php.Differences
import VersionBump.Proofs.DivisionContents

/-!
# Families of members

Methods, properties and constants are compared alike: each family has its own keys, rules and kinds
of change, and all else is the same. A family carries what the comparison relies on, so that what
follows is shown once for all three.

* `MemberFamily` is a family with its laws; `methodFamily`, `propertyFamily` and `constantFamily`
  are the three.
* `MemberFamily.find?_allView` and `MemberFamily.find?_publishedView` say what the views of the
  members of a class-like hold if the keys are unique.
* `memberFindings_eq_ok_iff` puts the findings among members together from the families.
-/

namespace VersionBump.Php

/-- A family of members of class-likes. -/
structure MemberFamily (α : Type) where
  members : ClassLike → List α
  key : α → String
  visibility : α → Visibility
  isApi : α → Bool
  /-- The name of a member within a target. -/
  label : α → String
  /-- The member of the same name that a class-like inherits. -/
  inherited? : Registry ClassLike → ClassLike → α → Option α
  part : Member
  removed : PhpChange
  rules : Pair → DivisionRules α Cycle
  removed_major : ∀ column, (Severity.phpRow column removed).level = .major
  members_publishedPart : ∀ c, members c.publishedPart =
    (members c).filter fun m => c.publishes (isApi m) (visibility m)
  hasMembers_of_mem : ∀ c, ∀ m ∈ members c, c.hasMembers = true
  removed_of_none : ∀ p key b, inherited? p.setting.after p.after.value b.value = none →
    (rules p).removed key b =
      .ok (.ofChanges [p.op removed (p.target (label b.value)) b.location])
  membershipAdded_eq : ∀ p key b a, (rules p).membershipAdded key b a =
    .ok (.ofMembership (p.op (.membershipAdded part) (p.target (label a.value)) a.location))
  membershipRemoved_eq : ∀ p key b a, (rules p).membershipRemoved key b a =
    .ok (.ofMembership (p.op (.membershipRemoved part) (p.target (label b.value)) a.location))

/-- The methods of class-likes. -/
def methodFamily : MemberFamily Method where
  members := ClassLike.methods
  key := Method.key
  visibility := Method.visibility
  isApi := Method.isApi
  label := Method.name
  inherited? r c m := inheritedMethod? r c m.name
  part := .method
  removed := .methodRemoved
  rules := methodRules
  removed_major _ := rfl
  members_publishedPart _ := rfl
  hasMembers_of_mem c m hm := by simp [ClassLike.hasMembers, List.ne_nil_of_mem hm]
  removed_of_none p key b h := by simp only [methodRules, h]; rfl
  membershipAdded_eq _ _ _ _ := rfl
  membershipRemoved_eq _ _ _ _ := rfl

/-- The properties of class-likes. -/
def propertyFamily : MemberFamily Property where
  members := ClassLike.properties
  key := Property.key
  visibility := Property.visibility
  isApi := Property.isApi
  label x := "$" ++ x.key
  inherited? r c x := inheritedProperty? r c x.key
  part := .property
  removed := .propertyRemoved
  rules := propertyRules
  removed_major _ := rfl
  members_publishedPart _ := rfl
  hasMembers_of_mem c m hm := by simp [ClassLike.hasMembers, List.ne_nil_of_mem hm]
  removed_of_none p key b h := by simp only [propertyRules, h]; rfl
  membershipAdded_eq _ _ _ _ := rfl
  membershipRemoved_eq _ _ _ _ := rfl

/-- The constants of class-likes. -/
def constantFamily : MemberFamily Constant where
  members := ClassLike.constants
  key := Constant.key
  visibility := Constant.visibility
  isApi := Constant.isApi
  label := Constant.name
  inherited? r c k := inheritedConstant? r c k.name
  part := .constant
  removed := .constantRemoved
  rules := constantRules
  removed_major _ := rfl
  members_publishedPart _ := rfl
  hasMembers_of_mem c m hm := by simp [ClassLike.hasMembers, List.ne_nil_of_mem hm]
  removed_of_none p key b h := by simp only [constantRules, h]
  membershipAdded_eq _ _ _ _ := rfl
  membershipRemoved_eq _ _ _ _ := rfl

/-- The surface of a class-like is its published part, if it has a surface. -/
theorem ClassLike.eq_publishedPart_of_surface? {c part : ClassLike} (h : c.surface? = some part) :
    part = c.publishedPart := by
  unfold surface? at h
  split at h
  · exact (Option.some.inj h).symm
  · exact nomatch h

namespace MemberFamily

variable {α : Type} (f : MemberFamily α)

/-- Whether a member can be seen from outside its class-like. -/
def Shared (m : α) : Prop := (f.visibility m).isShared = true

/-- Whether a class-like publishes a member of its own. -/
def Publishes (c : ClassLike) (m : α) : Prop := c.publishes (f.isApi m) (f.visibility m) = true

instance (m : α) : Decidable (f.Shared m) := inferInstanceAs (Decidable (_ = true))
instance (c : ClassLike) (m : α) : Decidable (f.Publishes c m) :=
  inferInstanceAs (Decidable (_ = true))

/-- The members of a class-like have keys of their own. -/
def UniqueKeys (c : ClassLike) : Prop := ((f.members c).map f.key).Nodup

instance (c : ClassLike) : Decidable (f.UniqueKeys c) := inferInstanceAs (Decidable (List.Nodup _))

/-- All shared members of a class-like by key. -/
def allView (c : Located ClassLike) : View α :=
  memberView f.key f.visibility (f.members c.value) c.location

/-- The published members of a class-like by key. -/
def publishedView (c : Located ClassLike) : View α :=
  (c.value.surface?.map fun part =>
    memberView f.key f.visibility (f.members part) c.location).getD ∅

/-- The four views of the members of two versions of a class-like. -/
def views (p : Pair) : Views α :=
  ⟨f.publishedView p.before, f.publishedView p.after, f.allView p.before, f.allView p.after⟩

/-- A published member is shared. -/
theorem Publishes.shared {c : ClassLike} {m : α} (h : f.Publishes c m) : f.Shared m :=
  (Bool.and_eq_true_iff.mp h).1

/-- Two members of one key are the same. -/
theorem UniqueKeys.eq {c : ClassLike} (h : f.UniqueKeys c) {m n : α} (hm : m ∈ f.members c)
    (hn : n ∈ f.members c) (hkey : f.key m = f.key n) : m = n :=
  List.inj_on_of_nodup_map h hm hn hkey

/-- What a view of members finds is a shared member of the key. -/
private theorem of_find?_memberView {members : List α} {location : Path} {key : String}
    {e : Located α} (h : (memberView f.key f.visibility members location).find? key = some e) :
    e.location = location ∧ e.value ∈ members ∧ f.Shared e.value ∧ f.key e.value = key := by
  obtain ⟨m, hm, heq⟩ := List.mem_map.mp (KeyMap.mem_of_find?_ofList h)
  obtain ⟨rfl, rfl⟩ := Prod.mk.inj heq
  obtain ⟨hmem, hshared⟩ := List.mem_filter.mp hm
  exact ⟨rfl, hmem, hshared, rfl⟩

/-- A view of members finds something under the key of every shared member. -/
private theorem exists_find?_memberView {members : List α} {m : α} (hm : m ∈ members)
    (hshared : f.Shared m) (location : Path) :
    ∃ e, (memberView f.key f.visibility members location).find? (f.key m) = some e :=
  KeyMap.exists_find?_ofList
    (List.mem_map.mpr ⟨m, List.mem_filter.mpr ⟨hm, hshared⟩, rfl⟩)

/-- What the view of all members finds is a shared member of the key. -/
theorem of_find?_allView {c : Located ClassLike} {key : String} {e : Located α}
    (h : (f.allView c).find? key = some e) :
    e.location = c.location ∧ e.value ∈ f.members c.value ∧ f.Shared e.value ∧
      f.key e.value = key :=
  f.of_find?_memberView h

/-- The view of all members finds something under the key of every shared member. -/
theorem exists_find?_allView {c : Located ClassLike} {m : α} (hm : m ∈ f.members c.value)
    (hshared : f.Shared m) : ∃ e, (f.allView c).find? (f.key m) = some e :=
  f.exists_find?_memberView hm hshared c.location

/-- What the view of all members finds if the keys are unique. -/
theorem find?_allView {c : Located ClassLike} (h : f.UniqueKeys c.value) {key : String}
    {e : Located α} :
    (f.allView c).find? key = some e ↔
      e.location = c.location ∧ e.value ∈ f.members c.value ∧ f.Shared e.value ∧
        f.key e.value = key := by
  refine ⟨f.of_find?_allView, ?_⟩
  rintro ⟨hlocation, hmem, hshared, rfl⟩
  obtain ⟨e', he'⟩ := f.exists_find?_allView hmem hshared
  obtain ⟨hlocation', hmem', -, hkey⟩ := f.of_find?_memberView he'
  obtain ⟨value, location⟩ := e
  obtain ⟨value', location'⟩ := e'
  obtain rfl : value' = value := h.eq f hmem' hmem hkey
  obtain rfl : location' = location := hlocation'.trans hlocation.symm
  exact he'

/-- Who publishes a member has a published part. -/
theorem surface?_of_publishes {c : ClassLike} {m : α} (hm : m ∈ f.members c)
    (h : f.Publishes c m) : c.surface? = some c.publishedPart := by
  have hmem : m ∈ f.members c.publishedPart := by
    rw [f.members_publishedPart]
    exact List.mem_filter.mpr ⟨hm, h⟩
  simp [ClassLike.surface?, f.hasMembers_of_mem _ m hmem]

theorem surface?_ne_none {c : ClassLike} {m : α} (hm : m ∈ f.members c) (h : f.Publishes c m) :
    c.surface? ≠ none := by
  rw [f.surface?_of_publishes hm h]
  exact Option.some_ne_none _

/-- The members of the published part are the published members. -/
private theorem mem_members_publishedPart {c : ClassLike} {m : α} :
    m ∈ f.members c.publishedPart ↔ m ∈ f.members c ∧ f.Publishes c m := by
  rw [f.members_publishedPart, List.mem_filter]
  rfl

/-- What the view of the published members finds is a published member of the key. -/
theorem of_find?_publishedView {c : Located ClassLike} {key : String} {e : Located α}
    (h : (f.publishedView c).find? key = some e) :
    e.location = c.location ∧ e.value ∈ f.members c.value ∧ f.Publishes c.value e.value ∧
      f.key e.value = key := by
  unfold publishedView at h
  cases hs : c.value.surface? with
  | none =>
    rw [hs] at h
    exact nomatch h
  | some part =>
    rw [hs, Option.map_some, Option.getD_some, ClassLike.eq_publishedPart_of_surface? hs] at h
    obtain ⟨hlocation, hmem, -, hkey⟩ := f.of_find?_memberView h
    obtain ⟨hmem, hpub⟩ := f.mem_members_publishedPart.mp hmem
    exact ⟨hlocation, hmem, hpub, hkey⟩

/-- The view of the published members finds something under the key of every published member. -/
theorem exists_find?_publishedView {c : Located ClassLike} {m : α} (hm : m ∈ f.members c.value)
    (hpub : f.Publishes c.value m) : ∃ e, (f.publishedView c).find? (f.key m) = some e := by
  rw [publishedView, f.surface?_of_publishes hm hpub]
  exact f.exists_find?_memberView (f.mem_members_publishedPart.mpr ⟨hm, hpub⟩)
    (Publishes.shared f hpub) c.location

/-- What the view of the published members finds if the keys are unique. -/
theorem find?_publishedView {c : Located ClassLike} (h : f.UniqueKeys c.value) {key : String}
    {e : Located α} :
    (f.publishedView c).find? key = some e ↔
      e.location = c.location ∧ e.value ∈ f.members c.value ∧ f.Publishes c.value e.value ∧
        f.key e.value = key := by
  refine ⟨f.of_find?_publishedView, ?_⟩
  rintro ⟨hlocation, hmem, hpub, rfl⟩
  obtain ⟨e', he'⟩ := f.exists_find?_publishedView hmem hpub
  obtain ⟨hlocation', hmem', -, hkey⟩ := f.of_find?_publishedView he'
  obtain ⟨value, location⟩ := e
  obtain ⟨value', location'⟩ := e'
  obtain rfl : value' = value := h.eq f hmem' hmem hkey
  obtain rfl : location' = location := hlocation'.trans hlocation.symm
  exact he'

end MemberFamily

/-- The members of a class-like have keys of their own, family by family. -/
def ClassLike.UniqueMemberKeys (c : ClassLike) : Prop :=
  methodFamily.UniqueKeys c ∧ propertyFamily.UniqueKeys c ∧ constantFamily.UniqueKeys c

instance (c : ClassLike) : Decidable c.UniqueMemberKeys :=
  inferInstanceAs (Decidable (_ ∧ _ ∧ _))

/-- The findings of three comparisons together are there if those of all three are. -/
theorem bind_append_eq_ok_iff {x y z : Except Cycle Findings} {r : Findings} :
    (do let a ← x
        let b ← y
        let c ← z
        return a ++ b ++ c) = Except.ok r ↔
      ∃ a b c, x = .ok a ∧ y = .ok b ∧ z = .ok c ∧ r = a ++ b ++ c := by
  constructor
  · intro h
    obtain ⟨a, ha, h⟩ := exists_of_bind_eq_ok h
    obtain ⟨b, hb, h⟩ := exists_of_bind_eq_ok h
    obtain ⟨c, hc, h⟩ := exists_of_bind_eq_ok h
    cases h
    exact ⟨a, b, c, ha, hb, hc, rfl⟩
  · rintro ⟨a, b, c, rfl, rfl, rfl, rfl⟩
    rfl

/-- The findings among members are those of the three families. -/
theorem memberFindings_eq_ok_iff {p : Pair} {r : Findings} :
    memberFindings p ⟨p.before.value.surface?, p.after.value.surface?⟩ = .ok r ↔
      ∃ methods properties constants,
        (methodFamily.views p).divide.apply (methodFamily.rules p) = .ok methods ∧
        (propertyFamily.views p).divide.apply (propertyFamily.rules p) = .ok properties ∧
        (constantFamily.views p).divide.apply (constantFamily.rules p) = .ok constants ∧
        r = methods ++ properties ++ constants :=
  bind_append_eq_ok_iff

/-- A family whose findings are among those of the members. -/
def MemberFamily.Compared {α : Type} (f : MemberFamily α) : Prop :=
  ∀ p r, memberFindings p ⟨p.before.value.surface?, p.after.value.surface?⟩ = .ok r →
    ∃ part, (f.views p).divide.Applied (f.rules p) part ∧ r.Includes part

/-- Methods are compared. -/
theorem compared_methodFamily : methodFamily.Compared := by
  intro p r h
  obtain ⟨methods, properties, constants, hm, -, -, rfl⟩ := memberFindings_eq_ok_iff.mp h
  exact ⟨methods, Division.applied_of_apply hm,
    (Findings.includes_left _ _).trans (Findings.includes_left _ _)⟩

/-- Properties are compared. -/
theorem compared_propertyFamily : propertyFamily.Compared := by
  intro p r h
  obtain ⟨methods, properties, constants, -, hp, -, rfl⟩ := memberFindings_eq_ok_iff.mp h
  exact ⟨properties, Division.applied_of_apply hp,
    (Findings.includes_left _ _).trans (Findings.includes_right _ _)⟩

/-- Constants are compared. -/
theorem compared_constantFamily : constantFamily.Compared := by
  intro p r h
  obtain ⟨methods, properties, constants, -, -, hc, rfl⟩ := memberFindings_eq_ok_iff.mp h
  exact ⟨constants, Division.applied_of_apply hc, Findings.includes_right _ _⟩

end VersionBump.Php

namespace VersionBump

/-- The members of every class-like of a registry have keys of their own. -/
def Registry.UniqueMemberKeys (r : Registry Php.ClassLike) : Prop :=
  ∀ c ∈ r.values, c.UniqueMemberKeys

instance (r : Registry Php.ClassLike) : Decidable r.UniqueMemberKeys :=
  inferInstanceAs (Decidable (∀ c ∈ r.values, _))

/-- What is found in a registry is one of its values. -/
theorem Registry.value_mem_of_find? {α : Type} {r : Registry α} {context : Context} {key : String}
    {e : Located α} (h : r.find? context key = some e) : e.value ∈ r.values := by
  have hmem : ((⟨context, key⟩ : Registry.Key), e) ∈ r.entries.toList :=
    r.entries.mem_toList_iff.mpr h
  simp only [values, KeyMap.values, List.mem_map]
  exact ⟨e, ⟨_, hmem, rfl⟩, rfl⟩

end VersionBump
