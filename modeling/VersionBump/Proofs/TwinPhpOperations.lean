import VersionBump.Proofs.TwinOperations

/-!
# Twin operations about PHP declarations

The comparison of class-likes looks at the severity table for the operations that it issues, and at
the hierarchy for how thrown types are related, and nowhere else. So two settings of the same
declarations whose hierarchies answer alike find twins throughout. The statements follow the
comparison from types and flags to members, class-likes and whole divisions.

* `Setting.Parallel` says that two settings have the same declarations and that their hierarchies
  answer alike, unless the first one refuses to answer.
* `matches_findings` is the statement for the divisions of all contexts.
* `matches_publishedDifferences` and `matches_allDifferences` are its two uses.
* A setting is parallel to itself, so what is found under it is issued by its table:
  `issuedBy_publishedDifferences` and `covers_allDifferences`.
-/

namespace VersionBump.Php

open Severity.Table

/-- Two settings of the same declarations. Their hierarchies give the same answers, unless the first
one is refused. -/
structure Setting.Parallel (refused : Cycle → Prop) (s s' : Setting) : Prop where
  before_eq : s.before = s'.before
  after_eq : s.after = s'.after
  hierarchy : ∀ child ancestor, Matches refused (· = ·) (s.hierarchy.inheritsFrom child ancestor)
    (s'.hierarchy.inheritsFrom child ancestor)

/-- Twins about PHP declarations, whose tables are those of two settings. -/
abbrev Setting.Twins (s s' : Setting) (membership : Bool) : Operation → Operation → Prop :=
  s.table.Twins s'.table .php membership

section Members

variable {refused : Cycle → Prop} {s s' : Setting} {context : Context} {before after : Located ClassLike}
  (hc : context ∈ Severity.phpContexts)

/-! ## Single operations -/

section

include hc

private theorem twins_op {kind : PhpChange} (hk : kind.isMembership = false) (target : String)
    (location : Path) :
    s.Twins s' false (Pair.op ⟨s, context, before, after⟩ kind target location)
      (Pair.op ⟨s', context, before, after⟩ kind target location) :=
  twins_operation context (.php kind) hc rfl hk target location

private theorem twins_flipOp {kind : PhpChange} (hk : kind.isMembership = true) (target : String)
    (location : Path) :
    s.Twins s' true (Pair.op ⟨s, context, before, after⟩ kind target location)
      (Pair.op ⟨s', context, before, after⟩ kind target location) :=
  twins_operation context (.php kind) hc rfl hk target location

private theorem twins_valueOp {kind : PhpChange} (hk : kind.isMembership = false)
    (target : String) (location : Path) (x y : String) :
    s.Twins s' false (Pair.valueOp ⟨s, context, before, after⟩ kind target location x y)
      (Pair.valueOp ⟨s', context, before, after⟩ kind target location x y) :=
  twins_valueChange context (.php kind) hc rfl hk target location x y

private theorem twins_moveOp (slot : TypeSlot) (move : TypeMove) (target : String)
    (location : Path) :
    s.Twins s' false (Pair.moveOp ⟨s, context, before, after⟩ slot move target location)
      (Pair.moveOp ⟨s', context, before, after⟩ slot move target location) :=
  twins_operation context (.docType slot move) hc rfl rfl target location

/-! ## Differences of members -/

private theorem parallel_compareTypes (slot : TypeSlot) {kind : PhpChange}
    (hk : kind.isMembership = false) (target : String) (location : Path) (a b : Option TypeDecl) :
    List.Forall₂ (s.Twins s' false)
      (compareTypes ⟨s, context, before, after⟩ slot kind target location a b)
      (compareTypes ⟨s', context, before, after⟩ slot kind target location a b) := by
  unfold compareTypes
  split
  · exact .nil
  · split
    · exact parallel_toList_map fun _ _ => twins_moveOp hc _ _ _ _
    · exact .cons (twins_valueOp hc hk _ _ _ _) .nil
  · exact .cons (twins_valueOp hc hk _ _ _ _) .nil
  · exact .cons (twins_valueOp hc hk _ _ _ _) .nil

private theorem parallel_compareVisibility {decreased increased : PhpChange}
    (hd : decreased.isMembership = false) (hi : increased.isMembership = false) (target : String)
    (location : Path) (a b : Visibility) :
    List.Forall₂ (s.Twins s' false)
      (compareVisibility ⟨s, context, before, after⟩ decreased increased target location a b)
      (compareVisibility ⟨s', context, before, after⟩ decreased increased target location a b) := by
  unfold compareVisibility
  split
  · exact .cons (twins_valueOp hc hd _ _ _ _) .nil
  · split
    · exact .cons (twins_valueOp hc hi _ _ _ _) .nil
    · exact .nil

private theorem parallel_compareFlag {raised dropped : Option PhpChange}
    (hr : ∀ k, raised = some k → k.isMembership = false)
    (hd : ∀ k, dropped = some k → k.isMembership = false) (target : String) (location : Path)
    (a b : Bool) :
    List.Forall₂ (s.Twins s' false)
      (compareFlag ⟨s, context, before, after⟩ raised dropped target location a b)
      (compareFlag ⟨s', context, before, after⟩ raised dropped target location a b) := by
  unfold compareFlag
  split
  · exact parallel_toList_map fun k hk => twins_op hc (hr k hk) _ _
  · exact parallel_toList_map fun k hk => twins_op hc (hd k hk) _ _
  · exact .nil

private theorem parallel_compareParam (method : String) (location : Path) (a b : Param) :
    List.Forall₂ (s.Twins s' false)
      (compareParam ⟨s, context, before, after⟩ method location a b)
      (compareParam ⟨s', context, before, after⟩ method location a b) := by
  refine List.rel_append (List.rel_append (parallel_compareTypes hc _ rfl _ _ _ _)
    (parallel_compareFlag hc ?_ ?_ _ _ _ _)) ?_
  · rintro k ⟨⟩; rfl
  · rintro k ⟨⟩; rfl
  · split
    · split
      · exact .nil
      · exact .cons (twins_valueOp hc rfl _ _ _ _) .nil
    · exact .nil

omit hc in
/-- The change that a new parameter is does not concern what is published. -/
private theorem isMembership_newParam (p : Pair) (new : Param) :
    (addedParamChange p new).isMembership = false := by
  unfold addedParamChange
  split
  · rfl
  · split <;> rfl

private theorem parallel_compareParams (method : String) (location : Path) (as bs : List Param) :
    List.Forall₂ (s.Twins s' false)
      (compareParams ⟨s, context, before, after⟩ method location as bs)
      (compareParams ⟨s', context, before, after⟩ method location as bs) := by
  induction as generalizing bs with
  | nil =>
    induction bs with
    | nil =>
      simp only [compareParams]
      exact .nil
    | cons b bs ih =>
      simp only [compareParams]
      exact .cons (twins_op hc (isMembership_newParam _ b) _ _) ih
  | cons a as ih =>
    cases bs with
    | nil =>
      simp only [compareParams]
      exact .cons (twins_op hc rfl _ _) (ih [])
    | cons b bs =>
      simp only [compareParams]
      exact List.rel_append (parallel_compareParam hc _ _ _ _) (ih bs)

private theorem parallel_compareReturn (target : String) (location : Path) (a b : Option TypeDecl) :
    List.Forall₂ (s.Twins s' false)
      (compareReturn ⟨s, context, before, after⟩ target location a b)
      (compareReturn ⟨s', context, before, after⟩ target location a b) := by
  unfold compareReturn
  split
  · exact .cons (twins_op hc rfl _ _) .nil
  · exact .cons (twins_op hc rfl _ _) .nil
  · exact parallel_compareTypes hc _ rfl _ _ _ _

private theorem parallel_compareProperties (location : Path) (a b : Property) :
    List.Forall₂ (s.Twins s' false)
      (compareProperties ⟨s, context, before, after⟩ location a b)
      (compareProperties ⟨s', context, before, after⟩ location a b) := by
  refine List.rel_append (List.rel_append (parallel_compareVisibility hc rfl rfl _ _ _ _)
    (parallel_compareFlag hc ?_ ?_ _ _ _ _)) (parallel_compareTypes hc _ rfl _ _ _ _) <;>
    rintro k ⟨⟩ <;> rfl

private theorem parallel_compareConstants (location : Path) (a b : Constant) :
    List.Forall₂ (s.Twins s' false)
      (compareConstants ⟨s, context, before, after⟩ location a b)
      (compareConstants ⟨s', context, before, after⟩ location a b) :=
  parallel_compareVisibility hc rfl rfl _ _ _ _

end

/-! ## Thrown types -/

section

variable (hs : s.Parallel refused s')

include hs

/-- A newly thrown type is related alike to the types thrown before, and as no change of what is
published. -/
private theorem matches_relateThrown (thrown : String) (previous : List (String × String)) :
    Matches refused (fun a b => a = b ∧ a.1.isMembership = false)
      (relateThrown s.hierarchy thrown previous) (relateThrown s'.hierarchy thrown previous) := by
  induction previous with
  | nil => exact .ok ⟨rfl, rfl⟩
  | cons e rest ih =>
    unfold relateThrown
    refine (hs.hierarchy thrown e.2).bind ?_
    rintro narrower _ rfl
    cases narrower with
    | true => exact .ok ⟨rfl, rfl⟩
    | false =>
      refine (hs.hierarchy e.2 thrown).bind ?_
      rintro wider _ rfl
      cases wider with
      | true => exact .ok ⟨rfl, rfl⟩
      | false => exact ih

/-- All newly thrown types are related alike to the types thrown before. -/
private theorem matches_relateAllThrown (previous fresh : List (String × String)) :
    Matches refused (fun a b => a = b ∧ ∀ r ∈ a, r.2.1.isMembership = false)
      (relateAllThrown s.hierarchy previous fresh)
      (relateAllThrown s'.hierarchy previous fresh) := by
  induction fresh with
  | nil => exact .ok ⟨rfl, fun r hr => nomatch hr⟩
  | cons e rest ih =>
    unfold relateAllThrown
    refine (matches_relateThrown hs e.2 previous).bind ?_
    rintro first _ ⟨rfl, hfirst⟩
    refine ih.bind ?_
    rintro others _ ⟨rfl, hothers⟩
    exact .ok ⟨rfl, List.forall_mem_cons.mpr ⟨hfirst, hothers⟩⟩

include hc

private theorem matches_compareThrows (target : String) (location : Path) (a b : List String) :
    Matches refused (List.Forall₂ (s.Twins s' false))
      (compareThrows ⟨s, context, before, after⟩ target location a b)
      (compareThrows ⟨s', context, before, after⟩ target location a b) := by
  unfold compareThrows
  refine (matches_relateAllThrown hs _ _).bind ?_
  rintro related _ ⟨rfl, hkinds⟩
  refine .ok (List.rel_append (parallel_map fun r hr => ?_) (parallel_map fun e _ => ?_))
  · exact twins_op hc (hkinds r hr) _ _
  · exact twins_op hc rfl _ _

private theorem matches_compareMethods (location : Path) (a b : Method) :
    Matches refused (List.Forall₂ (s.Twins s' false))
      (compareMethods ⟨s, context, before, after⟩ location a b)
      (compareMethods ⟨s', context, before, after⟩ location a b) := by
  have hnone : ∀ k : PhpChange, none = some k → k.isMembership = false := fun _ hk => nomatch hk
  unfold compareMethods
  refine (matches_compareThrows hc hs _ _ _ _).bind fun thrown thrown' hthrown => .ok ?_
  refine List.rel_append (List.rel_append (List.rel_append (List.rel_append (List.rel_append
    (List.rel_append (parallel_compareVisibility hc rfl rfl _ _ _ _)
      (parallel_compareFlag hc ?_ ?_ _ _ _ _)) (parallel_compareFlag hc ?_ hnone _ _ _ _))
    (parallel_compareFlag hc ?_ hnone _ _ _ _)) (parallel_compareParams hc _ _ _ _))
    (parallel_compareReturn hc _ _ _ _)) hthrown <;> rintro k ⟨⟩ <;> rfl

/-! ## Rules of members -/

private theorem matches_methodRules :
    (methodRules ⟨s, context, before, after⟩).Matches refused (s.Twins s')
      (methodRules ⟨s', context, before, after⟩) where
  added key a := by
    simp only [methodRules, hs.before_eq, hs.after_eq]
    split
    · exact .ok (Findings.related_ofChanges (.cons (twins_op hc rfl _ _) .nil))
    · refine (matches_compareMethods hc hs _ _ _).bind fun ops ops' hops => ?_
      refine .ok (Findings.related_ofChanges (.cons (twins_op hc ?_ _ _) hops))
      split <;> rfl
  removed key b := by
    simp only [methodRules, hs.after_eq]
    split
    · exact .ok (Findings.related_ofChanges (.cons (twins_op hc rfl _ _) .nil))
    · refine (matches_compareMethods hc hs _ _ _).bind fun ops ops' hops => ?_
      exact .ok (Findings.related_ofChanges (.cons (twins_op hc rfl _ _) hops))
  membershipAdded key b a := .ok (Findings.related_ofMembership (twins_flipOp hc rfl _ _))
  membershipRemoved key b a := .ok (Findings.related_ofMembership (twins_flipOp hc rfl _ _))
  changed key b a := by
    refine (matches_compareMethods hc hs _ _ _).bind fun ops ops' hops => ?_
    exact .ok (Findings.related_ofChanges hops)

private theorem matches_propertyRules :
    (propertyRules ⟨s, context, before, after⟩).Matches refused (s.Twins s')
      (propertyRules ⟨s', context, before, after⟩) where
  added key a := by
    simp only [propertyRules, hs.before_eq]
    split
    · exact .ok (Findings.related_ofChanges (.cons (twins_op hc rfl _ _) .nil))
    · exact .ok (Findings.related_ofChanges
        (.cons (twins_op hc rfl _ _) (parallel_compareProperties hc _ _ _)))
  removed key b := by
    simp only [propertyRules, hs.after_eq]
    split
    · exact .ok (Findings.related_ofChanges (.cons (twins_op hc rfl _ _) .nil))
    · exact .ok (Findings.related_ofChanges
        (.cons (twins_op hc rfl _ _) (parallel_compareProperties hc _ _ _)))
  membershipAdded key b a := .ok (Findings.related_ofMembership (twins_flipOp hc rfl _ _))
  membershipRemoved key b a := .ok (Findings.related_ofMembership (twins_flipOp hc rfl _ _))
  changed key b a := .ok (Findings.related_ofChanges (parallel_compareProperties hc _ _ _))

private theorem matches_constantRules :
    (constantRules ⟨s, context, before, after⟩).Matches refused (s.Twins s')
      (constantRules ⟨s', context, before, after⟩) where
  added key a := by
    simp only [constantRules, hs.before_eq]
    split
    · exact .ok (Findings.related_ofChanges (.cons (twins_op hc rfl _ _) .nil))
    · exact .ok (Findings.related_ofChanges
        (.cons (twins_op hc rfl _ _) (parallel_compareConstants hc _ _ _)))
  removed key b := by
    simp only [constantRules, hs.after_eq]
    split
    · exact .ok (Findings.related_ofChanges (.cons (twins_op hc rfl _ _) .nil))
    · exact .ok (Findings.related_ofChanges
        (.cons (twins_op hc rfl _ _) (parallel_compareConstants hc _ _ _)))
  membershipAdded key b a := .ok (Findings.related_ofMembership (twins_flipOp hc rfl _ _))
  membershipRemoved key b a := .ok (Findings.related_ofMembership (twins_flipOp hc rfl _ _))
  changed key b a := .ok (Findings.related_ofChanges (parallel_compareConstants hc _ _ _))

/-- The findings among the members match. -/
private theorem matches_memberFindings (parts : PublishedParts) :
    Matches refused (Findings.Related (s.Twins s'))
      (memberFindings ⟨s, context, before, after⟩ parts)
      (memberFindings ⟨s', context, before, after⟩ parts) := by
  unfold memberFindings
  refine ((matches_methodRules hc hs).apply _).bind fun methods methods' hm => ?_
  refine ((matches_propertyRules hc hs).apply _).bind fun properties properties' hp => ?_
  refine ((matches_constantRules hc hs).apply _).bind fun constants constants' hk => ?_
  exact .ok ((hm.append hp).append hk)

end

/-! ## Class-likes -/

section

include hc

private theorem parallel_compareHeads (location : Path) :
    List.Forall₂ (s.Twins s' false) (compareHeads ⟨s, context, before, after⟩ location)
      (compareHeads ⟨s', context, before, after⟩ location) := by
  have hreferences : ∀ word {gained lost : PhpChange}, gained.isMembership = false →
      lost.isMembership = false → ∀ a b, List.Forall₂ (s.Twins s' false)
        (compareReferences ⟨s, context, before, after⟩ word gained lost location a b)
        (compareReferences ⟨s', context, before, after⟩ word gained lost location a b) := by
    intro word gained lost hg hl a b
    exact List.rel_append (parallel_map fun _ _ => twins_op hc hg _ _)
      (parallel_map fun _ _ => twins_op hc hl _ _)
  refine List.rel_append (List.rel_append (List.rel_append (List.rel_append
    (hreferences _ rfl rfl _ _) (hreferences _ rfl rfl _ _)) (hreferences _ rfl rfl _ _))
    (parallel_compareFlag hc ?_ ?_ _ _ _ _)) (parallel_compareFlag hc ?_ ?_ _ _ _ _) <;>
    rintro k ⟨⟩ <;> rfl

private theorem related_gainedMark (b a : Located ClassLike) :
    Findings.Related (s.Twins s') (gainedMark s context b a) (gainedMark s' context b a) := by
  unfold gainedMark
  split
  · exact Findings.related_ofMembership
      (twins_operation context (.php (.membershipAdded .declaration)) hc rfl rfl _ _)
  · exact Findings.related_empty

private theorem related_lostMark (b a : Located ClassLike) :
    Findings.Related (s.Twins s') (lostMark s context b a) (lostMark s' context b a) := by
  unfold lostMark
  split
  · exact Findings.related_ofMembership
      (twins_operation context (.php (.membershipRemoved .declaration)) hc rfl rfl _ _)
  · exact Findings.related_empty

variable (hs : s.Parallel refused s')

include hs

private theorem matches_classRules (scope : Scope) :
    (classRules scope s context).Matches refused (s.Twins s') (classRules scope s' context) where
  added key a := .ok (Findings.related_ofChanges
    (.cons (twins_operation context (.php .added) hc rfl rfl _ _) .nil))
  removed key b := .ok (Findings.related_ofChanges
    (.cons (twins_operation context (.php .removed) hc rfl rfl _ _) .nil))
  membershipAdded key b a := by
    simp only [classRules, hs.after_eq]
    split
    · exact .ok Findings.related_empty
    · refine (matches_memberFindings hc hs _).bind fun members members' hm => ?_
      exact .ok ((related_gainedMark hc b a).append hm)
  membershipRemoved key b a := by
    simp only [classRules, hs.before_eq]
    split
    · exact .ok Findings.related_empty
    · refine (matches_memberFindings hc hs _).bind fun members members' hm => ?_
      exact .ok ((related_lostMark hc b a).append hm)
  changed key b a := by
    simp only [classRules, hs.before_eq, hs.after_eq]
    refine (matches_memberFindings hc hs _).bind fun members members' hm => ?_
    refine .ok (Findings.Related.append ?_ hm)
    split
    · exact Findings.related_ofChanges (parallel_compareHeads hc _)
    · exact (related_gainedMark hc b a).append (related_lostMark hc b a)

end

end Members

/-! ## Whole comparisons -/

section Comparisons

variable {refused : Cycle → Prop} {s s' : Setting}

/-- The findings of all contexts match. -/
theorem matches_findings (hs : s.Parallel refused s') (scope : Scope)
    (views : Context → Views ClassLike) :
    Matches refused (Findings.Related (s.Twins s')) (findings scope s views)
      (findings scope s' views) :=
  Findings.matches_collect fun _ hc => (matches_classRules hc hs scope).apply _

/-- The findings on published surfaces match. -/
theorem matches_publishedDifferences (hs : s.Parallel refused s')
    (before after : Registry ClassLike) :
    Matches refused (Findings.Related (s.Twins s')) (publishedDifferences s before after)
      (publishedDifferences s' before after) := by
  simp only [publishedDifferences, hs.before_eq, hs.after_eq]
  exact matches_findings hs _ _

/-- The differences of all declarations match. -/
theorem matches_allDifferences (hs : s.Parallel refused s') :
    Matches refused (List.Forall₂ (s.Twins s' false)) (allDifferences s) (allDifferences s') := by
  simp only [allDifferences, hs.before_eq, hs.after_eq]
  exact (matches_findings hs _ _).map fun _ _ h => h.changes

/-! ## One setting -/

/-- A setting is parallel to itself. -/
private theorem Setting.parallel_self (refused : Cycle → Prop) (s : Setting) :
    s.Parallel refused s :=
  ⟨rfl, rfl, fun _ _ => .refl _⟩

/-- What is found on published surfaces is its own twin. -/
private theorem related_publishedDifferences {before after : Registry ClassLike} {r : Findings}
    (h : publishedDifferences s before after = .ok r) : Findings.Related (s.Twins s) r r :=
  (matches_publishedDifferences (Setting.parallel_self (fun _ => False) s) before after).of_ok h h

/-- What is found among all declarations is its own twin. -/
private theorem parallel_allDifferences {ops : List Operation} (h : allDifferences s = .ok ops) :
    List.Forall₂ (s.Twins s false) ops ops :=
  (matches_allDifferences (Setting.parallel_self (fun _ => False) s)).of_ok h h

/-- The findings on published surfaces are issued. -/
theorem issuedBy_publishedDifferences {before after : Registry ClassLike} {r : Findings}
    (h : publishedDifferences s before after = .ok r) : r.IssuedBy s.table :=
  ⟨Parallel.covers (related_publishedDifferences h).changes,
    Parallel.covers (related_publishedDifferences h).membership⟩

/-- The differences of all declarations are issued. -/
theorem covers_allDifferences {ops : List Operation} (h : allDifferences s = .ok ops) :
    s.table.Covers false ops :=
  Parallel.covers (parallel_allDifferences h)

/-- The findings on published surfaces stand in the contexts of class-likes. -/
theorem context_family_publishedDifferences {before after : Registry ClassLike} {r : Findings}
    (h : publishedDifferences s before after = .ok r) :
    ∀ op ∈ r.changes ++ r.membership, op.context.family? = some .php := by
  intro op hop
  rcases List.mem_append.mp hop with hop | hop
  · exact Parallel.context_family (related_publishedDifferences h).changes op hop
  · exact Parallel.context_family (related_publishedDifferences h).membership op hop

/-- The differences of all declarations stand in the contexts of class-likes. -/
theorem context_family_allDifferences {ops : List Operation} (h : allDifferences s = .ok ops) :
    ∀ op ∈ ops, op.context.family? = some .php :=
  Parallel.context_family (parallel_allDifferences h)

end Comparisons

end VersionBump.Php
