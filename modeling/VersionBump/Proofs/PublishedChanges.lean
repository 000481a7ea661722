import VersionBump.Proofs.PublishedPairs

/-!
# Changes of published surfaces

The comparison of published surfaces sees less than the comparison of all declarations, but what it
finds to have changed the other finds as well, as the very same operation. The two look at different
views: a surface against the whole registry, and everything against everything.

* `Division.Finds.unpublished` is the statement for nested views with the same rules, which is the
  case of members.
* `published_mem_allDifferences` is the statement for registries.
* `publishedDifferences_of_publishesNothing` says that there is nothing to find where nothing is
  published.
-/

namespace VersionBump

/-! ## Nested views -/

section Views

variable {α ε : Type} {v : Views α} {rules : DivisionRules α ε} {op : Operation}

/-- What is published is there, and it is the same declaration. -/
structure Views.Nested (v : Views α) : Prop where
  before : ∀ key e, v.publishedBefore.find? key = some e → v.allBefore.find? key = some e
  after : ∀ key e, v.publishedAfter.find? key = some e → v.allAfter.find? key = some e

/-- Rules that find no changes where something merely enters or leaves the published surface. -/
structure DivisionRules.Separating (rules : DivisionRules α ε) : Prop where
  entered : ∀ key b a part, rules.membershipAdded key b a = .ok part → part.changes = []
  left : ∀ key b a part, rules.membershipRemoved key b a = .ok part → part.changes = []

/-- What is found in nested views is found without regard to publication too. -/
theorem Division.Finds.unpublished (hv : v.Nested) (hrules : rules.Separating)
    (h : v.divide.Finds rules op) :
    (Views.unpublished v.allBefore v.allAfter).divide.Finds rules op := by
  cases h with
  | added hin hrule hop =>
    obtain ⟨hafter, -, hall⟩ := v.mem_fullyAdded.mp hin
    exact .added ((Views.mem_fullyAdded _).mpr ⟨hv.after _ _ hafter, hall, hall⟩) hrule hop
  | removed hin hrule hop =>
    obtain ⟨hbefore, -, hall⟩ := v.mem_fullyRemoved.mp hin
    exact .removed ((Views.mem_fullyRemoved _).mpr ⟨hv.before _ _ hbefore, hall, hall⟩) hrule hop
  | entered hin hrule hop =>
    rw [hrules.entered _ _ _ _ hrule] at hop
    exact nomatch hop
  | left hin hrule hop =>
    rw [hrules.left _ _ _ _ hrule] at hop
    exact nomatch hop
  | changed hin hrule hop =>
    obtain ⟨hbefore, hafter⟩ := v.mem_toVerify.mp hin
    exact .changed ((Views.mem_toVerify _).mpr ⟨hv.before _ _ hbefore, hv.after _ _ hafter⟩) hrule hop

end Views

namespace Php

/-! ## Members -/

namespace MemberFamily

variable {α : Type} (f : MemberFamily α) {p : Pair}

/-- The views of the members of two versions are nested if the keys are unique. -/
theorem nested_views (hb : f.UniqueKeys p.before.value) (ha : f.UniqueKeys p.after.value) :
    (f.views p).Nested where
  before key e he := by
    obtain ⟨hlocation, hmem, hpub, hkey⟩ := f.of_find?_publishedView he
    exact (f.find?_allView hb).mpr ⟨hlocation, hmem, Publishes.shared f hpub, hkey⟩
  after key e he := by
    obtain ⟨hlocation, hmem, hpub, hkey⟩ := f.of_find?_publishedView he
    exact (f.find?_allView ha).mpr ⟨hlocation, hmem, Publishes.shared f hpub, hkey⟩

/-- A member that enters or leaves the published surface does not count as a change. -/
theorem separating_rules (p : Pair) : (f.rules p).Separating where
  entered key b a part h := by
    rw [f.membershipAdded_eq] at h
    cases h
    rfl
  left key b a part h := by
    rw [f.membershipRemoved_eq] at h
    cases h
    rfl

/-- The views of a comparison that ignores publication. -/
def allViews (p : Pair) : Views α := .unpublished (f.allView p.before) (f.allView p.after)

/-- The changes among the published members are found among all members. -/
theorem changes_subset {r all : Findings} (hb : f.UniqueKeys p.before.value)
    (ha : f.UniqueKeys p.after.value) (h : (f.views p).divide.apply (f.rules p) = .ok r)
    (hall : (f.allViews p).divide.apply (f.rules p) = .ok all) : r.changes ⊆ all.changes := by
  intro op hop
  rw [Division.mem_changes_of_apply h] at hop
  rw [Division.mem_changes_of_apply hall]
  exact hop.unpublished (f.nested_views hb ha) (f.separating_rules p)

end MemberFamily

/-- The findings among all members are those of the three families. -/
theorem allMemberFindings_eq_ok_iff {p : Pair} {r : Findings} :
    memberFindings p ⟨some p.before.value, some p.after.value⟩ = .ok r ↔
      ∃ methods properties constants,
        (methodFamily.allViews p).divide.apply (methodFamily.rules p) = .ok methods ∧
        (propertyFamily.allViews p).divide.apply (propertyFamily.rules p) = .ok properties ∧
        (constantFamily.allViews p).divide.apply (constantFamily.rules p) = .ok constants ∧
        r = methods ++ properties ++ constants :=
  bind_append_eq_ok_iff

/-- The changes among the published members of two versions are found among all their members. -/
theorem changes_memberFindings_subset {p : Pair} {r all : Findings}
    (hb : p.before.value.UniqueMemberKeys) (ha : p.after.value.UniqueMemberKeys)
    (h : memberFindings p ⟨p.before.value.surface?, p.after.value.surface?⟩ = .ok r)
    (hall : memberFindings p ⟨some p.before.value, some p.after.value⟩ = .ok all) :
    r.changes ⊆ all.changes := by
  obtain ⟨methods, properties, constants, hm, hp, hc, rfl⟩ := memberFindings_eq_ok_iff.mp h
  obtain ⟨methods', properties', constants', hm', hp', hc', rfl⟩ :=
    allMemberFindings_eq_ok_iff.mp hall
  simp only [Findings.changes_append]
  refine List.append_subset.mpr ⟨List.append_subset.mpr ⟨?_, ?_⟩, ?_⟩
  · exact fun op hop => List.mem_append_left _ (List.mem_append_left _
      (methodFamily.changes_subset hb.1 ha.1 hm hm' hop))
  · exact fun op hop => List.mem_append_left _ (List.mem_append_right _
      (propertyFamily.changes_subset hb.2.1 ha.2.1 hp hp' hop))
  · exact fun op hop => List.mem_append_right _ (constantFamily.changes_subset hb.2.2 ha.2.2 hc hc' hop)

/-! ## Class-likes -/

section Classes

variable {s : Setting} {context : Context} {key : String} {b a : Located ClassLike}

/-- The views of the class-likes of a context in a comparison that ignores publication. -/
def allViews (s : Setting) (context : Context) : Views ClassLike :=
  .unpublished (s.before.inContext context) (s.after.inContext context)

/-- The findings on two versions of a class-like in a comparison that ignores publication. -/
def everythingFindings (s : Setting) (context : Context) (b a : Located ClassLike) :
    Except Cycle Findings := do
  let members ← memberFindings ⟨s, context, b, a⟩ ⟨some b.value, some a.value⟩
  return .ofChanges (compareHeads ⟨s, context, b, a⟩ a.location) ++ members

/-- The comparison of everything compares the heads of two versions and all their members. -/
theorem changed_eq_everythingFindings (hb : s.before.find? context key = some b)
    (ha : s.after.find? context key = some a) :
    (classRules .everything s context).changed key b a = everythingFindings s context b a := by
  simp only [classRules, hb, ha, Option.getD_some, decide_true, Bool.true_or, if_true,
    everythingFindings]

/-- The changes of the heads are differences of the heads. -/
private theorem changes_headFindings_subset :
    (headFindings s context b a).changes ⊆ compareHeads ⟨s, context, b, a⟩ a.location := by
  unfold headFindings
  split
  · exact fun _ hop => hop
  · have hgained : (gainedMark s context b a).changes = [] := by unfold gainedMark; split <;> rfl
    have hlost : (lostMark s context b a).changes = [] := by unfold lostMark; split <;> rfl
    rw [compareMarks, Findings.changes_append, hgained, hlost]
    exact List.nil_subset _

/-- What has changed on the published parts of two versions has changed on the versions. -/
private theorem changes_pairFindings_subset {r all : Findings}
    (hub : b.value.UniqueMemberKeys) (hua : a.value.UniqueMemberKeys)
    (hb : s.before.find? context key = some b) (ha : s.after.find? context key = some a)
    (h : pairFindings s context b a = .ok r)
    (hall : (classRules .everything s context).changed key b a = .ok all) :
    r.changes ⊆ all.changes := by
  obtain ⟨members, hmembers, h⟩ := exists_of_bind_eq_ok h
  cases h
  rw [changed_eq_everythingFindings hb ha] at hall
  obtain ⟨allMembers, hallMembers, hall⟩ := exists_of_bind_eq_ok hall
  cases hall
  simp only [Findings.changes_append, Findings.changes_ofChanges]
  refine List.append_subset.mpr ⟨?_, ?_⟩
  · exact fun op hop => List.mem_append_left _ (changes_headFindings_subset hop)
  · exact fun op hop => List.mem_append_right _
      (changes_memberFindings_subset (p := ⟨s, context, b, a⟩) hub hua hmembers hallMembers hop)

end Classes

/-! ## Registries -/

section Registries

variable {s : Setting} {found : Findings}

/-- The changes on the published surfaces in one context are found among all declarations. -/
private theorem changes_context_subset {context : Context} {r all : Findings}
    (hb : s.before.UniqueMemberKeys) (ha : s.after.UniqueMemberKeys)
    (h : (surfaceViews s context).divide.apply (classRules .published s context) = .ok r)
    (hall : (allViews s context).divide.apply (classRules .everything s context) = .ok all) :
    r.changes ⊆ all.changes := by
  have happlied := Division.applied_of_apply hall
  -- All three classes of pairs lead to the same place in the comparison of everything.
  have hpair : ∀ {key b a part op}, s.before.find? context key = some b →
      s.after.find? context key = some a → pairFindings s context b a = .ok part →
      op ∈ part.changes → op ∈ all.changes := by
    intro key b a part op hfindb hfinda hpart hop
    obtain ⟨part', hrule, hin⟩ := happlied.changed key b a ((Views.mem_toVerify _).mpr
      ⟨(Registry.find?_inContext _ _ _).trans hfindb, (Registry.find?_inContext _ _ _).trans hfinda⟩)
    exact hin.changes op (changes_pairFindings_subset (hb _ (Registry.value_mem_of_find? hfindb))
      (ha _ (Registry.value_mem_of_find? hfinda)) hfindb hfinda hpart hrule hop)
  intro op hop
  cases (Division.mem_changes_of_apply h).mp hop with
  | @added key a' part hin hrule hop =>
    obtain ⟨hafter, -, hgone⟩ := (surfaceViews s context).mem_fullyAdded.mp hin
    obtain ⟨a, pa, hfinda, hpa, rfl⟩ := find?_surface_eq_some_iff.mp hafter
    obtain ⟨part', hrule', hin'⟩ := happlied.added key a ((Views.mem_fullyAdded _).mpr
      ⟨(Registry.find?_inContext _ _ _).trans hfinda, hgone, hgone⟩)
    obtain rfl := ClassLike.eq_publishedPart_of_surface? hpa
    cases hrule
    cases hrule'
    exact hin'.changes op hop
  | @removed key b' part hin hrule hop =>
    obtain ⟨hbefore, -, hgone⟩ := (surfaceViews s context).mem_fullyRemoved.mp hin
    obtain ⟨b, pb, hfindb, hpb, rfl⟩ := find?_surface_eq_some_iff.mp hbefore
    obtain ⟨part', hrule', hin'⟩ := happlied.removed key b ((Views.mem_fullyRemoved _).mpr
      ⟨(Registry.find?_inContext _ _ _).trans hfindb, hgone, hgone⟩)
    obtain rfl := ClassLike.eq_publishedPart_of_surface? hpb
    cases hrule
    cases hrule'
    exact hin'.changes op hop
  | entered hin hrule hop =>
    obtain ⟨hfindb, hnone, a, pa, hfinda, hpa, rfl⟩ := mem_entered_iff.mp hin
    rw [entered_eq_pairFindings hnone hfinda hpa] at hrule
    exact hpair hfindb hfinda hrule hop
  | left hin hrule hop =>
    obtain ⟨hfinda, hnone, b, pb, hfindb, hpb, rfl⟩ := mem_left_iff.mp hin
    rw [left_eq_pairFindings hfindb hpb hnone] at hrule
    exact hpair hfindb hfinda hrule hop
  | changed hin hrule hop =>
    obtain ⟨⟨b, pb, hfindb, hpb, rfl⟩, a, pa, hfinda, hpa, rfl⟩ := mem_verified_iff.mp hin
    rw [changed_eq_pairFindings hfindb hfinda hpb hpa] at hrule
    exact hpair hfindb hfinda hrule hop

/-- All differences are the changes of what is found among all declarations. -/
private theorem allDifferences_eq_ok {ops : List Operation} (h : allDifferences s = .ok ops) :
    ∃ all, findings .everything s (allViews s) = .ok all ∧ ops = all.changes := by
  obtain ⟨all, hall, hops⟩ := exists_of_map_eq_ok
    (x := findings .everything s (allViews s)) h
  exact ⟨all, hall, hops.symm⟩

/-- Every change found on the published surfaces is found by the comparison of everything, as the
same operation. -/
theorem published_mem_allDifferences {ops : List Operation} (hb : s.before.UniqueMemberKeys)
    (ha : s.after.UniqueMemberKeys)
    (h : publishedDifferences s (publishedSurface s.before) (publishedSurface s.after) = .ok found)
    (hall : allDifferences s = .ok ops) : found.changes ⊆ ops := by
  intro op hop
  obtain ⟨context, hc, part, hpart, hop⟩ := (Findings.mem_changes_of_collect h).mp hop
  obtain ⟨all, hfindings, rfl⟩ := allDifferences_eq_ok hall
  obtain ⟨part', hpart', hin⟩ := Findings.exists_of_collect hfindings hc
  exact hin.changes op (changes_context_subset hb ha hpart hpart' hop)

end Registries

/-! ## Nothing published -/

/-- Neither the class-like nor any of its members is published. -/
structure ClassLike.PublishesNothing (c : ClassLike) : Prop where
  isApi : c.isApi = false
  methods : ∀ m ∈ c.methods, ¬ methodFamily.Publishes c m
  properties : ∀ m ∈ c.properties, ¬ propertyFamily.Publishes c m
  constants : ∀ m ∈ c.constants, ¬ constantFamily.Publishes c m

/-- A class-like that publishes nothing has no surface. -/
theorem ClassLike.PublishesNothing.surface?_eq_none {c : ClassLike} (h : c.PublishesNothing) :
    c.surface? = none := by
  have hmethods : c.publishedPart.methods = [] := List.filter_eq_nil_iff.mpr h.methods
  have hproperties : c.publishedPart.properties = [] := List.filter_eq_nil_iff.mpr h.properties
  have hconstants : c.publishedPart.constants = [] := List.filter_eq_nil_iff.mpr h.constants
  simp [surface?, h.isApi, hasMembers, hmethods, hproperties, hconstants]

/-- A class-like has no surface exactly if it publishes nothing. -/
theorem ClassLike.surface?_eq_none_iff {c : ClassLike} :
    c.surface? = none ↔ c.PublishesNothing := by
  refine ⟨fun h => ⟨isApi_of_surface?_none h, ?_, ?_, ?_⟩, fun h => h.surface?_eq_none⟩
  · exact fun m hm hpub => methodFamily.surface?_ne_none hm hpub h
  · exact fun m hm hpub => propertyFamily.surface?_ne_none hm hpub h
  · exact fun m hm hpub => constantFamily.surface?_ne_none hm hpub h

end Php

/-- Nothing in a registry is published. -/
def Registry.PublishesNothing (r : Registry Php.ClassLike) : Prop :=
  ∀ c ∈ r.values, c.PublishesNothing

namespace Php

/-- The surface of a registry that publishes nothing is empty. -/
theorem publishedSurface_eq_empty {r : Registry ClassLike} (h : r.PublishesNothing) :
    publishedSurface r = ∅ := by
  have hentries : (publishedSurface r).entries = KeyMap.empty := by
    refine KeyMap.ext_find? fun key => ?_
    show (publishedSurface r).find? key.context key.name = none
    rw [publishedSurface, Registry.find?_filterMap, Option.bind_eq_none_iff]
    intro e he
    rw [(h _ (Registry.value_mem_of_find? he)).surface?_eq_none, Option.map_none]
  cases hr : publishedSurface r with
  | mk entries =>
    rw [hr] at hentries
    exact congrArg Registry.mk hentries

/-- Where nothing is published on either side, nothing is found on the published surfaces. -/
theorem publishedDifferences_of_publishesNothing {s : Setting} (hb : s.before.PublishesNothing)
    (ha : s.after.PublishesNothing) :
    publishedDifferences s (publishedSurface s.before) (publishedSurface s.after) = .ok {} := by
  rw [publishedSurface_eq_empty hb, publishedSurface_eq_empty ha]
  rfl

end Php

end VersionBump
