import VersionBump.Proofs.IgnoredCycles
import VersionBump.Proofs.ReversedMembers

/-!
# Reversed comparisons of PHP declarations

Comparing class-likes backwards finds a removal for every addition, at the same target, and so for
references, marks and members. A class-like that enters the published surface is looked at by
another rule than one that leaves it, and both have to agree.

* `Setting.backwards` is the comparison in the other direction, and `Setting.Mirrors` relates the
  two.
* `reversedRuns_pairFindings` and `reversedRuns_everythingFindings` are the statements for two
  versions of a class-like.
* `differences_mirrored` is the statement for registries.
-/

namespace VersionBump.Php

/-! ## Class-likes -/

/-- The comparison in the other direction, with the hierarchy of the earlier side. -/
def Setting.backwards (s : Setting) (hierarchy : Hierarchy) : Setting where
  table := s.table
  hierarchy := hierarchy
  before := s.after
  after := s.before

/-- Two settings of one comparison in both directions. What stands under one key has one name,
however it is spelled in other respects. -/
structure Setting.Mirrors (s s' : Setting) : Prop where
  before : s'.before = s.after
  after : s'.after = s.before
  fqn : ∀ context key b a, s.before.find? context key = some b →
    s.after.find? context key = some a → b.value.fqn = a.value.fqn

theorem Setting.Mirrors.symm {s s' : Setting} (h : s.Mirrors s') : s'.Mirrors s where
  before := h.after.symm
  after := h.before.symm
  fqn context key b a hb ha := by
    rw [h.before] at hb
    rw [h.after] at ha
    exact (h.fqn context key a b ha hb).symm

/-- What stands under one key on both sides is mirrored. -/
theorem Setting.Mirrors.pair {s s' : Setting} (h : s.Mirrors s') {context : Context} {key : String}
    {b a : Located ClassLike} (hb : s.before.find? context key = some b)
    (ha : s.after.find? context key = some a) :
    Pair.Mirrors ⟨s, context, b, a⟩ ⟨s', context, a, b⟩ where
  registryBefore := h.before
  registryAfter := h.after
  context := rfl
  before := rfl
  after := rfl
  fqn := h.fqn context key b a hb ha

section Heads

variable {p p' : Pair}

/-- References that are gained are lost backwards. -/
private theorem reversed_compareReferences (h : p.Mirrors p') (word : String)
    {gained lost : PhpChange} (hgained : (Change.php gained).Reverses reversals (.php lost))
    (hlost : (Change.php lost).Reverses reversals (.php gained)) (location location' : Path)
    (old new : List String) :
    Reversed reversals (compareReferences p word gained lost location old new)
      (compareReferences p' word gained lost location' new old) := by
  unfold compareReferences
  exact .append_swap (.map fun _ _ => reversed_op h hgained _ _ _)
    (.map fun _ _ => reversed_op h hlost _ _ _)

/-- The heads of two versions are reversed. -/
private theorem reversed_compareHeads (h : p.Mirrors p') (location location' : Path) :
    Reversed reversals (compareHeads p location) (compareHeads p' location') := by
  simp only [compareHeads, h.before, h.after]
  refine .append (.append (.append (.append ?parents ?interfaces) ?traits) ?final) ?abstract
  case parents => exact reversed_compareReferences h _ (by decide) (by decide) _ _ _ _
  case interfaces => exact reversed_compareReferences h _ (by decide) (by decide) _ _ _ _
  case traits => exact reversed_compareReferences h _ (by decide) (by decide) _ _ _ _
  case final =>
    exact .of_neutral (detailsAt_headFlag (by decide) (by decide) _ _).details
      (detailsAt_headFlag (by decide) (by decide) _ _).details
  case abstract =>
    exact .of_neutral (detailsAt_headFlag (by decide) (by decide) _ _).details
      (detailsAt_headFlag (by decide) (by decide) _ _).details

end Heads

section Classes

variable {s s' : Setting} {context : Context} {key : String} {b a : Located ClassLike}

/-- A mark that is set is taken away backwards. -/
private theorem reversed_compareMarks (hfqn : b.value.fqn = a.value.fqn) :
    (compareMarks s context b a).Reversed reversals (compareMarks s' context a b) := by
  have hadded : (Change.php (.membershipAdded .declaration)).Reverses reversals
      (.php (.membershipRemoved .declaration)) := by
    decide
  have hremoved : (Change.php (.membershipRemoved .declaration)).Reverses reversals
      (.php (.membershipAdded .declaration)) := by
    decide
  simp only [compareMarks, gainedMark, lostMark, hfqn]
  cases b.value.isApi <;> cases a.value.isApi
  · exact ⟨.nil, .nil⟩
  · exact .ofMembership (.operation hadded _ _ _ _)
  · exact .ofMembership (.operation hremoved _ _ _ _)
  · exact ⟨.nil, .nil⟩

/-- The findings on the heads are reversed. -/
private theorem reversed_headFindings (h : s.Mirrors s')
    (hb : s.before.find? context key = some b) (ha : s.after.find? context key = some a) :
    (headFindings s context b a).Reversed reversals (headFindings s' context a b) := by
  unfold headFindings
  -- Heads are compared if both sides are marked, in either direction.
  rw [Bool.and_comm]
  split
  · exact .ofChanges (reversed_compareHeads (h.pair hb ha) _ _)
  · exact reversed_compareMarks (h.fqn context key b a hb ha)

/-- The findings on the published parts of two versions are reversed. -/
theorem reversedRuns_pairFindings (h : s.Mirrors s') (hb : s.before.find? context key = some b)
    (ha : s.after.find? context key = some a) :
    ReversedRuns reversals (pairFindings s context b a) (pairFindings s' context a b) := by
  intro found found' hfound hfound'
  obtain ⟨members, hmembers, hfound⟩ := exists_of_bind_eq_ok hfound
  obtain ⟨members', hmembers', hfound'⟩ := exists_of_bind_eq_ok hfound'
  cases hfound
  cases hfound'
  exact (reversed_headFindings h hb ha).append
    (reversedRuns_memberFindings (h.pair hb ha) _ _ hmembers hmembers')

/-- The findings on two whole versions are reversed. -/
theorem reversedRuns_everythingFindings (h : s.Mirrors s')
    (hb : s.before.find? context key = some b) (ha : s.after.find? context key = some a) :
    ReversedRuns reversals (everythingFindings s context b a)
      (everythingFindings s' context a b) := by
  intro found found' hfound hfound'
  obtain ⟨members, hmembers, hfound⟩ := exists_of_bind_eq_ok hfound
  obtain ⟨members', hmembers', hfound'⟩ := exists_of_bind_eq_ok hfound'
  cases hfound
  cases hfound'
  exact (Findings.Reversed.ofChanges (reversed_compareHeads (h.pair hb ha) _ _)).append
    (reversedRuns_allMemberFindings (h.pair hb ha) _ _ hmembers hmembers')

/-- A class-like that is new is gone backwards, whichever heads are compared. -/
private theorem reversedRuns_added (scope : Scope) (key : String) (a : Located ClassLike) :
    ReversedRuns reversals ((classRules scope s context).added key a)
      ((classRules scope s' context).removed key a) :=
  .ok (.ofChanges (.operation (by decide) _ _ _ _))

/-- A class-like that enters the published surface leaves it backwards. -/
private theorem reversedRuns_entered (h : s.Mirrors s') {b a : Located ClassLike}
    (hmem : (key, b, a) ∈ (surfaceViews s context).divide.membershipAdded) :
    ReversedRuns reversals ((classRules .published s context).membershipAdded key b a)
      ((classRules .published s' context).membershipRemoved key a b) := by
  obtain ⟨hb, hnone, whole, part, ha, hpart, rfl⟩ := mem_entered_iff.mp hmem
  rw [entered_eq_pairFindings hnone ha hpart, left_eq_pairFindings (h.before ▸ ha) hpart hnone]
  exact reversedRuns_pairFindings h hb ha

/-- The rules for published class-likes are reversed in all classes of a division. -/
private theorem reversed_surfaceRules (h : s.Mirrors s') :
    (classRules .published s context).Reversed reversals (surfaceViews s context)
      (classRules .published s' context) where
  added key a _ := reversedRuns_added .published key a
  removed key b _ := (reversedRuns_added .published key b).symm
  membershipAdded _ _ _ hmem := reversedRuns_entered h hmem
  membershipRemoved key b a hmem := by
    -- What leaves the surface forwards enters it backwards.
    obtain ⟨ha, hnone, hb⟩ := mem_left_iff.mp hmem
    have hmem' : (key, a, b) ∈ (surfaceViews s' context).divide.membershipAdded := by
      rw [mem_entered_iff, h.before, h.after]
      exact ⟨ha, hnone, hb⟩
    exact (reversedRuns_entered h.symm hmem').symm
  changed key b' a' hmem := by
    obtain ⟨⟨b, pb, hb, hpb, rfl⟩, a, pa, ha, hpa, rfl⟩ := mem_verified_iff.mp hmem
    rw [changed_eq_pairFindings hb ha hpb hpa,
      changed_eq_pairFindings (h.before ▸ ha) (h.after ▸ hb) hpa hpb]
    exact reversedRuns_pairFindings h hb ha

/-- The rules for all class-likes are reversed in all classes of a division. Nothing enters or
leaves the published surface if everything counts as published. -/
private theorem reversed_allRules (h : s.Mirrors s') :
    (classRules .everything s context).Reversed reversals (allViews s context)
      (classRules .everything s' context) where
  added key a _ := reversedRuns_added .everything key a
  removed key b _ := (reversedRuns_added .everything key b).symm
  membershipAdded key b a hmem := by
    obtain ⟨-, hnone, hb⟩ := (Views.mem_membershipAdded _).mp hmem
    exact nomatch hnone.symm.trans hb
  membershipRemoved key b a hmem := by
    obtain ⟨-, hnone, ha⟩ := (Views.mem_membershipRemoved _).mp hmem
    exact nomatch hnone.symm.trans ha
  changed key b a hmem := by
    obtain ⟨hb, ha⟩ := (Views.mem_toVerify _).mp hmem
    have hb : s.before.find? context key = some b := (Registry.find?_inContext _ _ _).symm.trans hb
    have ha : s.after.find? context key = some a := (Registry.find?_inContext _ _ _).symm.trans ha
    rw [changed_eq_everythingFindings hb ha,
      changed_eq_everythingFindings (h.before ▸ ha) (h.after ▸ hb)]
    exact reversedRuns_everythingFindings h hb ha

end Classes

/-! ## Registries -/

section Registries

variable {s s' : Setting}

/-- Divisions of all contexts are reversed if those of each context are. -/
private theorem reversedRuns_findings (scope : Scope) {views views' : Context → Views ClassLike}
    (hviews : ∀ context, views' context = (views context).swap)
    (hrules : ∀ context, (classRules scope s context).Reversed reversals (views context)
      (classRules scope s' context)) :
    ReversedRuns reversals (findings scope s views) (findings scope s' views') := by
  refine Findings.reversedRuns_collect (g := id) (by rw [List.map_id]) fun context _ => ?_
  rw [id, hviews]
  exact Division.reversedRuns_apply (hrules context)

/-- Comparing two registries backwards, with the hierarchy of the earlier side, finds the reverse
of what comparing them forwards finds, both on the published surfaces and among all declarations.
Class-likes under one key must have one name, and cycles be ignored. -/
theorem differences_mirrored {s : Setting} {hierarchy : Hierarchy}
    (hforth : s.hierarchy.policy = .ignore) (hback : hierarchy.policy = .ignore)
    (hfqn : ∀ context key b a, s.before.find? context key = some b →
      s.after.find? context key = some a → b.value.fqn = a.value.fqn) :
    (∃ found found',
      publishedDifferences s (publishedSurface s.before) (publishedSurface s.after) = .ok found ∧
      publishedDifferences (s.backwards hierarchy) (publishedSurface s.after)
        (publishedSurface s.before) = .ok found' ∧
      Reversed reversals found.changes found'.changes ∧
      Reversed reversals found.membership found'.membership) ∧
    ∃ ops ops', allDifferences s = .ok ops ∧ allDifferences (s.backwards hierarchy) = .ok ops' ∧
      Reversed reversals ops ops' := by
  have hmirrors : s.Mirrors (s.backwards hierarchy) := ⟨rfl, rfl, hfqn⟩
  have hback : (s.backwards hierarchy).hierarchy.policy = .ignore := hback
  -- No run fails if cycles are ignored, so that there are findings to compare.
  constructor
  · obtain ⟨found, hfound⟩ := exists_eq_ok_of_isOk
      (isOk_findings hforth .published (surfaceViews s))
    obtain ⟨found', hfound'⟩ := exists_eq_ok_of_isOk
      (isOk_findings hback .published (surfaceViews (s.backwards hierarchy)))
    have hreversed := reversedRuns_findings .published (fun _ => rfl)
      (fun _ => reversed_surfaceRules hmirrors) _ _ hfound hfound'
    exact ⟨found, found', hfound, hfound', hreversed.changes, hreversed.membership⟩
  · obtain ⟨found, hfound⟩ := exists_eq_ok_of_isOk
      (isOk_findings hforth .everything (allViews s))
    obtain ⟨found', hfound'⟩ := exists_eq_ok_of_isOk
      (isOk_findings hback .everything (allViews (s.backwards hierarchy)))
    have hreversed := reversedRuns_findings .everything (fun _ => rfl)
      (fun _ => reversed_allRules hmirrors) _ _ hfound hfound'
    exact ⟨found.changes, found'.changes, congrArg (Except.map Findings.changes) hfound,
      congrArg (Except.map Findings.changes) hfound', hreversed.changes⟩

/-- A class that gets a parent, and another class that is new. -/
private def growth : Setting where
  table := {}
  hierarchy := {}
  before := Registry.empty.insert .classes "a"
    { name := "A", kind := .classKind, isApi := true } ⟨"a.php.json"⟩
  after := (Registry.empty.insert .classes "a"
    { name := "A", kind := .classKind, isApi := true, parents := ["B"] } ⟨"a.php.json"⟩).insert
    .classes "b" { name := "B", kind := .classKind, isApi := true } ⟨"b.php.json"⟩

/-- Backwards the new class is removed and the parent lost. -/
theorem differences_mirrored_growth : ∃ found,
    publishedDifferences (growth.backwards {}) (publishedSurface growth.after)
      (publishedSurface growth.before) = .ok found ∧
    (concerns [.php .removed] found.changes).Perm [(.classes, "B")] ∧
    (concerns [.php .parentRemoved] found.changes).Perm [(.classes, "A::extends B")] := by
  have hfqn : ∀ context key b a, growth.before.find? context key = some b →
      growth.after.find? context key = some a → b.value.fqn = a.value.fqn := by
    intro context key b a hb ha
    simp only [growth, Registry.find?_insert] at hb ha
    split at hb
    case isTrue hkey =>
      rw [if_neg (by simp [hkey]), if_pos hkey] at ha
      cases hb
      cases ha
      rfl
    case isFalse => exact nomatch hb
  have hforthPolicy : growth.hierarchy.policy = .ignore := rfl
  have hbackPolicy : ({} : Hierarchy).policy = .ignore := rfl
  obtain ⟨⟨found, found', hfound, hfound', hchanges, -⟩, -⟩ :=
    differences_mirrored hforthPolicy hbackPolicy hfqn
  have hforth : (publishedDifferences growth (publishedSurface growth.before)
      (publishedSurface growth.after)).map (fun f => (concerns [.php .added] f.changes,
        concerns [.php .parentAdded] f.changes)) =
      .ok ([(.classes, "B")], [(.classes, "A::extends B")]) := by
    decide +kernel
  rw [hfound] at hforth
  obtain ⟨hadded, hparent⟩ := Prod.mk.inj (Except.ok.inj hforth)
  refine ⟨found', hfound', ?_, ?_⟩
  · rw [← hadded]
    exact (hchanges (.of .php [.added] [.removed]) (by simp [reversals])).1.symm
  · rw [← hparent]
    exact (hchanges (.of .php [.parentAdded] [.parentRemoved]) (by simp [reversals])).1.symm

end Registries

end VersionBump.Php
