import VersionBump.Proofs.MemberFamilies

/-!
# Class-likes on both sides

A class-like that is there on both sides is looked at in one of three classes of the division, by
whether it has a published part before and afterwards, and in each class it is looked at in its own
way. The findings are the same in all three.

* `pairFindings` are the findings on two versions of a class-like, whatever the class.
* `entered_eq_pairFindings`, `left_eq_pairFindings` and `changed_eq_pairFindings` are the classes.
* `exists_pairFindings` and `exists_memberFindings` find them in the findings of a whole comparison.
-/

namespace VersionBump.Php

/-- The findings on the heads of two versions: their differences if both versions are API, and else
the change of the mark. -/
def headFindings (s : Setting) (context : Context) (b a : Located ClassLike) : Findings :=
  if b.value.isApi && a.value.isApi then .ofChanges (compareHeads ⟨s, context, b, a⟩ a.location)
  else compareMarks s context b a

/-- The findings on two versions of a class-like. -/
def pairFindings (s : Setting) (context : Context) (b a : Located ClassLike) :
    Except Cycle Findings := do
  let members ← memberFindings ⟨s, context, b, a⟩ ⟨b.value.surface?, a.value.surface?⟩
  return headFindings s context b a ++ members

/-! ## Surfaces -/

/-- A class-like that is API has a published part. -/
theorem ClassLike.surface?_of_isApi {c : ClassLike} (h : c.isApi = true) :
    c.surface? = some c.publishedPart := by
  simp [surface?, h]

theorem ClassLike.surface?_ne_none {c : ClassLike} (h : c.isApi = true) : c.surface? ≠ none := by
  rw [surface?_of_isApi h]
  exact Option.some_ne_none _

/-- A class-like without a published part is not API. -/
theorem ClassLike.isApi_of_surface?_none {c : ClassLike} (h : c.surface? = none) :
    c.isApi = false := by
  cases hc : c.isApi with
  | false => rfl
  | true =>
    rw [surface?_of_isApi hc] at h
    exact nomatch h

/-- The four views of the class-likes of a context whose published surfaces are compared. -/
def surfaceViews (s : Setting) (context : Context) : Views ClassLike :=
  ⟨(publishedSurface s.before).inContext context, (publishedSurface s.after).inContext context,
    s.before.inContext context, s.after.inContext context⟩

/-- What the surface of a registry holds. -/
theorem find?_surface (r : Registry ClassLike) (context : Context) (key : String) :
    ((publishedSurface r).inContext context).find? key =
      (r.find? context key).bind fun e => e.value.surface?.map (⟨·, e.location⟩) := by
  rw [Registry.find?_inContext, publishedSurface, Registry.find?_filterMap]

/-- The published part of a class-like that is found, with its file. -/
theorem find?_surface_of_find? {r : Registry ClassLike} {context : Context} {key : String}
    {e : Located ClassLike} (h : r.find? context key = some e) :
    ((publishedSurface r).inContext context).find? key =
      e.value.surface?.map (⟨·, e.location⟩) := by
  rw [find?_surface, h, Option.bind_some]

/-- What stands on a surface is the published part of a class-like that is found. -/
theorem find?_surface_eq_some_iff {r : Registry ClassLike} {context : Context} {key : String}
    {e : Located ClassLike} :
    ((publishedSurface r).inContext context).find? key = some e ↔
      ∃ whole part, r.find? context key = some whole ∧ whole.value.surface? = some part ∧
        e = ⟨part, whole.location⟩ := by
  rw [find?_surface]
  constructor
  · intro h
    obtain ⟨whole, hwhole, h⟩ := Option.bind_eq_some_iff.mp h
    obtain ⟨part, hpart, rfl⟩ := Option.map_eq_some_iff.mp h
    exact ⟨whole, part, hwhole, hpart, rfl⟩
  · rintro ⟨whole, part, hwhole, hpart, rfl⟩
    rw [hwhole, Option.bind_some, hpart, Option.map_some]

/-- A class-like that is found is missing on the surface if it has no published part. -/
theorem find?_surface_eq_none_iff {r : Registry ClassLike} {context : Context} {key : String}
    {e : Located ClassLike} (h : r.find? context key = some e) :
    ((publishedSurface r).inContext context).find? key = none ↔ e.value.surface? = none := by
  rw [find?_surface_of_find? h, Option.map_eq_none_iff]

/-! ## The three classes -/

section Members

variable {s : Setting} {context : Context} {key : String} {b a b' a' : Located ClassLike}

/-- The class-likes that entered the published surface with a part of them. -/
theorem mem_entered_iff : (key, b, a') ∈ (surfaceViews s context).divide.membershipAdded ↔
    s.before.find? context key = some b ∧ b.value.surface? = none ∧
      ∃ a part, s.after.find? context key = some a ∧ a.value.surface? = some part ∧
        a' = ⟨part, a.location⟩ := by
  constructor
  · intro h
    obtain ⟨hafter, hnone, hall⟩ := (surfaceViews s context).mem_membershipAdded.mp h
    have hb : s.before.find? context key = some b := (Registry.find?_inContext _ _ _).symm.trans hall
    exact ⟨hb, (find?_surface_eq_none_iff hb).mp hnone, find?_surface_eq_some_iff.mp hafter⟩
  · rintro ⟨hb, hnone, hafter⟩
    exact (surfaceViews s context).mem_membershipAdded.mpr ⟨find?_surface_eq_some_iff.mpr hafter,
      (find?_surface_eq_none_iff hb).mpr hnone, (Registry.find?_inContext _ _ _).trans hb⟩

/-- The class-likes that left the published surface altogether. -/
theorem mem_left_iff : (key, b', a) ∈ (surfaceViews s context).divide.membershipRemoved ↔
    s.after.find? context key = some a ∧ a.value.surface? = none ∧
      ∃ b part, s.before.find? context key = some b ∧ b.value.surface? = some part ∧
        b' = ⟨part, b.location⟩ := by
  constructor
  · intro h
    obtain ⟨hbefore, hnone, hall⟩ := (surfaceViews s context).mem_membershipRemoved.mp h
    have ha : s.after.find? context key = some a := (Registry.find?_inContext _ _ _).symm.trans hall
    exact ⟨ha, (find?_surface_eq_none_iff ha).mp hnone, find?_surface_eq_some_iff.mp hbefore⟩
  · rintro ⟨ha, hnone, hbefore⟩
    exact (surfaceViews s context).mem_membershipRemoved.mpr ⟨find?_surface_eq_some_iff.mpr hbefore,
      (find?_surface_eq_none_iff ha).mpr hnone, (Registry.find?_inContext _ _ _).trans ha⟩

/-- The class-likes with a published part on both sides. -/
theorem mem_verified_iff : (key, b', a') ∈ (surfaceViews s context).divide.toVerify ↔
    (∃ b part, s.before.find? context key = some b ∧ b.value.surface? = some part ∧
      b' = ⟨part, b.location⟩) ∧
    ∃ a part, s.after.find? context key = some a ∧ a.value.surface? = some part ∧
      a' = ⟨part, a.location⟩ := by
  rw [Views.mem_toVerify]
  exact and_congr find?_surface_eq_some_iff find?_surface_eq_some_iff

end Members

section Classes

variable {s : Setting} {context : Context} {key : String} {b a : Located ClassLike}
  {part : ClassLike}

/-- Where only the later version has a published part. -/
theorem entered_eq_pairFindings (hb : b.value.surface? = none)
    (ha : s.after.find? context key = some a) (hpart : a.value.surface? = some part) :
    (classRules .published s context).membershipAdded key b ⟨part, a.location⟩ =
      pairFindings s context b a := by
  -- Nothing can lose a mark that it did not have.
  have hhead : headFindings s context b a = gainedMark s context b ⟨part, a.location⟩ := by
    rw [ClassLike.eq_publishedPart_of_surface? hpart, headFindings, compareMarks, lostMark,
      ClassLike.isApi_of_surface?_none hb]
    exact Findings.append_empty _
  simp only [classRules, ha, pairFindings, hb, hpart, hhead]

/-- Where only the earlier version has a published part. -/
theorem left_eq_pairFindings (hb : s.before.find? context key = some b)
    (hpart : b.value.surface? = some part) (ha : a.value.surface? = none) :
    (classRules .published s context).membershipRemoved key ⟨part, b.location⟩ a =
      pairFindings s context b a := by
  have hhead : headFindings s context b a = lostMark s context ⟨part, b.location⟩ a := by
    rw [ClassLike.eq_publishedPart_of_surface? hpart, headFindings, compareMarks, gainedMark,
      ClassLike.isApi_of_surface?_none ha, Bool.and_false, Bool.and_false]
    exact Findings.empty_append _
  simp only [classRules, hb, pairFindings, ha, hpart, hhead]

/-- Where both versions have a published part. -/
theorem changed_eq_pairFindings {part' : ClassLike} (hb : s.before.find? context key = some b)
    (ha : s.after.find? context key = some a) (hpart : b.value.surface? = some part)
    (hpart' : a.value.surface? = some part') :
    (classRules .published s context).changed key ⟨part, b.location⟩ ⟨part', a.location⟩ =
      pairFindings s context b a := by
  obtain rfl := ClassLike.eq_publishedPart_of_surface? hpart
  obtain rfl := ClassLike.eq_publishedPart_of_surface? hpart'
  simp only [classRules, hb, ha, Option.getD_some, pairFindings, hpart, hpart', headFindings,
    reduceCtorEq, decide_false, Bool.false_or]
  rfl

end Classes

/-! ## Whole comparisons -/

section Comparison

variable {s : Setting} {found : Findings}

/-- A comparison of published surfaces runs the rules for every context. -/
theorem exists_division (h : publishedDifferences s (publishedSurface s.before)
      (publishedSurface s.after) = .ok found) {context : Context} (hc : context ∈ contexts) :
    ∃ part, (surfaceViews s context).divide.Applied (classRules .published s context) part ∧
      found.Includes part := by
  obtain ⟨part, hpart, hsub⟩ := Findings.exists_of_collect h hc
  exact ⟨part, Division.applied_of_apply hpart, hsub⟩

/-- The findings on every two versions with a published part are among those of the comparison. -/
theorem exists_pairFindings (h : publishedDifferences s (publishedSurface s.before)
      (publishedSurface s.after) = .ok found) {context : Context} (hc : context ∈ contexts)
    {key : String} {b a : Located ClassLike} (hb : s.before.find? context key = some b)
    (ha : s.after.find? context key = some a)
    (hpart : b.value.surface? ≠ none ∨ a.value.surface? ≠ none) :
    ∃ part, pairFindings s context b a = .ok part ∧ found.Includes part := by
  obtain ⟨division, happlied, hsub⟩ := exists_division h hc
  cases hpb : b.value.surface? with
  | none =>
    cases hpa : a.value.surface? with
    | none => simp [hpb, hpa] at hpart
    | some pa =>
      obtain ⟨part, hrule, hin⟩ := happlied.membershipAdded key b ⟨pa, a.location⟩
        (mem_entered_iff.mpr ⟨hb, hpb, a, pa, ha, hpa, rfl⟩)
      rw [entered_eq_pairFindings hpb ha hpa] at hrule
      exact ⟨part, hrule, hsub.trans hin⟩
  | some pb =>
    cases hpa : a.value.surface? with
    | none =>
      obtain ⟨part, hrule, hin⟩ := happlied.membershipRemoved key ⟨pb, b.location⟩ a
        (mem_left_iff.mpr ⟨ha, hpa, b, pb, hb, hpb, rfl⟩)
      rw [left_eq_pairFindings hb hpb hpa] at hrule
      exact ⟨part, hrule, hsub.trans hin⟩
    | some pa =>
      obtain ⟨part, hrule, hin⟩ := happlied.changed key ⟨pb, b.location⟩ ⟨pa, a.location⟩
        (mem_verified_iff.mpr ⟨⟨b, pb, hb, hpb, rfl⟩, a, pa, ha, hpa, rfl⟩)
      rw [changed_eq_pairFindings hb ha hpb hpa] at hrule
      exact ⟨part, hrule, hsub.trans hin⟩

/-- The findings on the heads and those among the members are among those of the comparison. -/
theorem exists_memberFindings (h : publishedDifferences s (publishedSurface s.before)
      (publishedSurface s.after) = .ok found) {context : Context} (hc : context ∈ contexts)
    {key : String} {b a : Located ClassLike} (hb : s.before.find? context key = some b)
    (ha : s.after.find? context key = some a)
    (hpart : b.value.surface? ≠ none ∨ a.value.surface? ≠ none) :
    found.Includes (headFindings s context b a) ∧
      ∃ members, memberFindings ⟨s, context, b, a⟩ ⟨b.value.surface?, a.value.surface?⟩ =
        .ok members ∧ found.Includes members := by
  obtain ⟨part, hpair, hsub⟩ := exists_pairFindings h hc hb ha hpart
  obtain ⟨members, hmembers, hpair⟩ := exists_of_bind_eq_ok hpair
  cases hpair
  exact ⟨hsub.trans (Findings.includes_left _ _), members, hmembers,
    hsub.trans (Findings.includes_right _ _)⟩

/-- A class-like with a published part that is gone is among the findings. -/
theorem removed_mem_changes (h : publishedDifferences s (publishedSurface s.before)
      (publishedSurface s.after) = .ok found) {context : Context} (hc : context ∈ contexts)
    {key : String} {b : Located ClassLike} (hb : s.before.find? context key = some b)
    (ha : s.after.find? context key = none) (hpart : b.value.surface? ≠ none) :
    s.table.operation context (.php .removed) b.value.fqn b.location ∈ found.changes := by
  obtain ⟨division, happlied, hsub⟩ := exists_division h hc
  obtain ⟨part, hpart⟩ := Option.ne_none_iff_exists'.mp hpart
  have hviewb := find?_surface_eq_some_iff.mpr ⟨b, part, hb, hpart, rfl⟩
  have hviewa : ((publishedSurface s.after).inContext context).find? key = none := by
    rw [find?_surface, ha, Option.bind_none]
  obtain ⟨removed, hrule, hin⟩ := happlied.removed key ⟨part, b.location⟩
    ((surfaceViews s context).mem_fullyRemoved.mpr
      ⟨hviewb, hviewa, (Registry.find?_inContext _ _ _).trans ha⟩)
  obtain rfl := ClassLike.eq_publishedPart_of_surface? hpart
  refine hsub.changes _ (hin.changes _ ?_)
  cases hrule
  exact List.mem_singleton.mpr rfl

end Comparison

end VersionBump.Php
