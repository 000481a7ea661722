import VersionBump.Php.Differences
import VersionBump.Proofs.LocatedOperations
import VersionBump.Proofs.MemberDetails

/-!
# Located operations about PHP declarations

Class-likes and their members are compared with the files of both sides at hand. A member that is
lost names the file of the class-like before the change; one that has moved to a parent, the file
after it. What differs between two versions of a member names the file that the comparison is given.

* `Findings.Stand` is the property of findings, and `DivisionRules.Stand` that of rules which are
  handed declarations of both sides.
* `Division.stand_apply` runs such rules over views whose entries come from files of their sides.
* `stand_memberFindings` and `stand_classRules` are the statements for members and class-likes.
* `stand_publishedDifferences` and `standing_allDifferences` are those for registries.
-/

namespace VersionBump

/-! ## Findings -/

/-- All operations of the findings name files of their sides. -/
structure Findings.Stand (before after : Path → Prop) (f : Findings) : Prop where
  changes : Standing before after f.changes
  membership : Standing before after f.membership

/-- Rules that name files of both sides if the declarations that they are handed come from there. -/
structure DivisionRules.Stand {α ε : Type} (before after : Path → Prop) (rules : DivisionRules α ε) :
    Prop where
  added : ∀ key a r, after a.location → rules.added key a = .ok r → r.Stand before after
  removed : ∀ key b r, before b.location → rules.removed key b = .ok r → r.Stand before after
  membershipAdded : ∀ key b a r, before b.location → after a.location →
    rules.membershipAdded key b a = .ok r → r.Stand before after
  membershipRemoved : ∀ key b a r, before b.location → after a.location →
    rules.membershipRemoved key b a = .ok r → r.Stand before after
  changed : ∀ key b a r, before b.location → after a.location →
    rules.changed key b a = .ok r → r.Stand before after

/-- The entries of four views come from files of their sides. -/
structure Views.LocatedIn {α : Type} (before after : Path → Prop) (v : Views α) : Prop where
  publishedBefore : v.publishedBefore.LocatedIn before
  publishedAfter : v.publishedAfter.LocatedIn after
  allBefore : v.allBefore.LocatedIn before
  allAfter : v.allAfter.LocatedIn after

section Findings

variable {before after : Path → Prop}

theorem Findings.stand_empty : Findings.Stand before after {} := ⟨standing_nil, standing_nil⟩

theorem Findings.Stand.append {f g : Findings} (hf : f.Stand before after)
    (hg : g.Stand before after) : (f ++ g).Stand before after :=
  ⟨hf.changes.append hg.changes, hf.membership.append hg.membership⟩

theorem Findings.stand_ofChanges {ops : List Operation} (h : Standing before after ops) :
    (Findings.ofChanges ops).Stand before after :=
  ⟨h, standing_nil⟩

theorem Findings.stand_ofMembership {op : Operation} (h : Standing before after [op]) :
    (Findings.ofMembership op).Stand before after :=
  ⟨standing_nil, h⟩

/-- The findings of a collection stand if those of its elements do. -/
theorem Findings.stand_collect {α ε : Type} {f : α → Except ε Findings} {xs : List α} {r : Findings}
    (hr : Findings.collect f xs = .ok r)
    (h : ∀ x ∈ xs, ∀ part, f x = .ok part → part.Stand before after) : r.Stand before after := by
  induction xs generalizing r with
  | nil =>
    cases hr
    exact stand_empty
  | cons x xs ih =>
    obtain ⟨first, hfirst, hr⟩ := exists_of_bind_eq_ok hr
    obtain ⟨others, hothers, hr⟩ := exists_of_bind_eq_ok hr
    cases hr
    obtain ⟨hx, hxs⟩ := List.forall_mem_cons.mp h
    exact (hx first hfirst).append (ih hothers hxs)

/-- Rules that name files of both sides do so in a division of views of both sides. -/
theorem Division.stand_apply {α ε : Type} {rules : DivisionRules α ε} {v : Views α} {r : Findings}
    (hrules : rules.Stand before after) (hv : v.LocatedIn before after)
    (hr : v.divide.apply rules = .ok r) : r.Stand before after := by
  obtain ⟨added, removed, entered, left, changed, ha, hb, he, hl, hc, rfl⟩ := apply_eq_ok_iff.mp hr
  refine .append (.append (.append (.append ?added ?removed) ?entered) ?left) ?changed
  case added =>
    refine Findings.stand_collect ha fun e he part hpart => ?_
    obtain ⟨hafter, -, -⟩ := v.mem_fullyAdded.mp he
    exact hrules.added _ _ _ (hv.publishedAfter _ _ hafter) hpart
  case removed =>
    refine Findings.stand_collect hb fun e he part hpart => ?_
    obtain ⟨hbefore, -, -⟩ := v.mem_fullyRemoved.mp he
    exact hrules.removed _ _ _ (hv.publishedBefore _ _ hbefore) hpart
  case entered =>
    refine Findings.stand_collect he fun e he part hpart => ?_
    obtain ⟨hafter, -, hbefore⟩ := v.mem_membershipAdded.mp he
    exact hrules.membershipAdded _ _ _ _ (hv.allBefore _ _ hbefore)
      (hv.publishedAfter _ _ hafter) hpart
  case left =>
    refine Findings.stand_collect hl fun e he part hpart => ?_
    obtain ⟨hbefore, -, hafter⟩ := v.mem_membershipRemoved.mp he
    exact hrules.membershipRemoved _ _ _ _ (hv.publishedBefore _ _ hbefore)
      (hv.allAfter _ _ hafter) hpart
  case changed =>
    refine Findings.stand_collect hc fun e he part hpart => ?_
    obtain ⟨hbefore, hafter⟩ := v.mem_toVerify.mp he
    exact hrules.changed _ _ _ _ (hv.publishedBefore _ _ hbefore) (hv.publishedAfter _ _ hafter)
      hpart

end Findings

namespace Php

/-- A kind of change by which nothing is lost. -/
private abbrev IsKept (kind : PhpChange) : Prop := Change.php kind ∉ Change.losses

/-- No detail is a loss. -/
private theorem not_mem_losses_of_mem_details : ∀ kind ∈ Change.details, kind ∉ Change.losses := by
  decide

/-! ## Versions of members -/

section Versions

variable {before after : Path → Prop} (p : Pair) {target : String} {location : Path}
  (hl : after location)

include hl

private theorem standing_op {kind : PhpChange} (h : IsKept kind) :
    Standing before after [p.op kind target location] :=
  standing_operation h hl _ _ _

/-- Details name the file that they are looked for in. -/
private theorem DetailsAt.standing {p : Pair} {part : Member} {named : String → Prop}
    {ops : List Operation} (h : DetailsAt p part named location ops) : Standing before after ops := by
  intro op hop
  obtain ⟨hkind, -, -, -, rfl⟩ := h op hop
  exact (if_neg (not_mem_losses_of_mem_details op.kind hkind)).mpr hl

private theorem standing_compareReferences (word : String) {gained lost : PhpChange}
    (hgained : IsKept gained) (hlost : IsKept lost) (old new : List String) :
    Standing before after (compareReferences p word gained lost location old new) := by
  refine .append (fun op hop => ?_) fun op hop => ?_
  · obtain ⟨e, -, rfl⟩ := List.mem_map.mp hop
    exact standing_op p hl hgained _ List.mem_cons_self
  · obtain ⟨e, -, rfl⟩ := List.mem_map.mp hop
    exact standing_op p hl hlost _ List.mem_cons_self

private theorem standing_compareHeads : Standing before after (compareHeads p location) := by
  refine .append (.append (.append (.append ?parents ?interfaces) ?traits) ?final) ?abstract
  case parents => exact standing_compareReferences p hl _ (by decide) (by decide) _ _
  case interfaces => exact standing_compareReferences p hl _ (by decide) (by decide) _ _
  case traits => exact standing_compareReferences p hl _ (by decide) (by decide) _ _
  case final => exact (detailsAt_headFlag (by decide) (by decide) _ _).standing hl
  case abstract => exact (detailsAt_headFlag (by decide) (by decide) _ _).standing hl

end Versions

/-! ## Members -/

section Members

variable {before after : Path → Prop} {p : Pair} (ha : after p.after.location)

include ha

private theorem stand_methodRules : (methodRules p).Stand before after where
  added key a r hl hr := by
    simp only [methodRules] at hr
    split at hr
    · cases hr
      exact Findings.stand_ofChanges (standing_op p hl (by decide))
    · obtain ⟨differences, hdifferences, hr⟩ := exists_of_bind_eq_ok hr
      cases hr
      refine Findings.stand_ofChanges (.append (standing_op p hl ?_)
        ((detailsAt_compareMethods hdifferences).standing hl))
      split <;> decide
  removed key b r hl hr := by
    simp only [methodRules] at hr
    split at hr
    · cases hr
      exact Findings.stand_ofChanges (standing_loss (by decide) hl _ _ _)
    · -- The method has moved, and is where its class-like is now.
      obtain ⟨differences, hdifferences, hr⟩ := exists_of_bind_eq_ok hr
      cases hr
      exact Findings.stand_ofChanges (.append (standing_op p ha (by decide))
        ((detailsAt_compareMethods hdifferences).standing ha))
  membershipAdded key b a r _ hl hr := by
    cases hr
    exact Findings.stand_ofMembership (standing_op p hl (by decide))
  membershipRemoved key b a r _ hl hr := by
    cases hr
    exact Findings.stand_ofMembership (standing_op p hl (by decide))
  changed key b a r _ hl hr := by
    obtain ⟨differences, hdifferences, hr⟩ := exists_of_bind_eq_ok hr
    cases hr
    exact Findings.stand_ofChanges ((detailsAt_compareMethods hdifferences).standing hl)

private theorem stand_propertyRules : (propertyRules p).Stand before after where
  added key a r hl hr := by
    simp only [propertyRules] at hr
    split at hr <;> cases hr
    · exact Findings.stand_ofChanges (standing_op p hl (by decide))
    · exact Findings.stand_ofChanges (.append (standing_op p hl (by decide))
        ((detailsAt_compareProperties p _ _ _).standing hl))
  removed key b r hl hr := by
    simp only [propertyRules] at hr
    split at hr <;> cases hr
    · exact Findings.stand_ofChanges (standing_loss (by decide) hl _ _ _)
    · exact Findings.stand_ofChanges (.append (standing_op p ha (by decide))
        ((detailsAt_compareProperties p _ _ _).standing ha))
  membershipAdded key b a r _ hl hr := by
    cases hr
    exact Findings.stand_ofMembership (standing_op p hl (by decide))
  membershipRemoved key b a r _ hl hr := by
    cases hr
    exact Findings.stand_ofMembership (standing_op p hl (by decide))
  changed key b a r _ hl hr := by
    cases hr
    exact Findings.stand_ofChanges ((detailsAt_compareProperties p _ _ _).standing hl)

private theorem stand_constantRules : (constantRules p).Stand before after where
  added key a r hl hr := by
    simp only [constantRules] at hr
    split at hr <;> cases hr
    · exact Findings.stand_ofChanges (standing_op p hl (by decide))
    · exact Findings.stand_ofChanges (.append (standing_op p hl (by decide))
        ((detailsAt_compareConstants p _ _ _).standing hl))
  removed key b r hl hr := by
    simp only [constantRules] at hr
    split at hr <;> cases hr
    · exact Findings.stand_ofChanges (standing_loss (by decide) hl _ _ _)
    · exact Findings.stand_ofChanges (.append (standing_op p ha (by decide))
        ((detailsAt_compareConstants p _ _ _).standing ha))
  membershipAdded key b a r _ hl hr := by
    cases hr
    exact Findings.stand_ofMembership (standing_op p hl (by decide))
  membershipRemoved key b a r _ hl hr := by
    cases hr
    exact Findings.stand_ofMembership (standing_op p hl (by decide))
  changed key b a r _ hl hr := by
    cases hr
    exact Findings.stand_ofChanges ((detailsAt_compareConstants p _ _ _).standing hl)

omit ha in
/-- Members come from the file of their class-like. -/
private theorem locatedIn_memberView {α : Type} (key : α → String) (visibility : α → Visibility)
    (members : List α) {location : Path} {q : Path → Prop} (hl : q location) :
    (memberView key visibility members location).LocatedIn q := by
  intro k e he
  obtain ⟨m, -, heq⟩ := List.mem_map.mp (KeyMap.mem_of_find?_ofList he)
  obtain ⟨-, rfl⟩ := Prod.mk.inj heq
  exact hl

/-- The members of two versions of a class-like come from the files of the versions. -/
private theorem locatedIn_memberViews {α : Type} (hb : before p.before.location)
    (parts : PublishedParts) (members : ClassLike → List α) (key : α → String)
    (visibility : α → Visibility) :
    (memberViews p parts members key visibility).LocatedIn before after where
  publishedBefore := by
    obtain ⟨_ | part, _⟩ := parts
    · exact KeyMap.locatedIn_empty
    · exact locatedIn_memberView _ _ _ hb
  publishedAfter := by
    obtain ⟨_, _ | part⟩ := parts
    · exact KeyMap.locatedIn_empty
    · exact locatedIn_memberView _ _ _ ha
  allBefore := locatedIn_memberView _ _ _ hb
  allAfter := locatedIn_memberView _ _ _ ha

/-- The findings among the members of two versions of a class-like name the files of these. -/
theorem stand_memberFindings (hb : before p.before.location) {parts : PublishedParts} {r : Findings}
    (hr : memberFindings p parts = .ok r) : r.Stand before after := by
  obtain ⟨methods, hmethods, hr⟩ := exists_of_bind_eq_ok hr
  obtain ⟨properties, hproperties, hr⟩ := exists_of_bind_eq_ok hr
  obtain ⟨constants, hconstants, hr⟩ := exists_of_bind_eq_ok hr
  cases hr
  refine .append (.append ?methods ?properties) ?constants
  case methods =>
    exact Division.stand_apply (stand_methodRules ha) (locatedIn_memberViews ha hb _ _ _ _) hmethods
  case properties =>
    exact Division.stand_apply (stand_propertyRules ha) (locatedIn_memberViews ha hb _ _ _ _)
      hproperties
  case constants =>
    exact Division.stand_apply (stand_constantRules ha) (locatedIn_memberViews ha hb _ _ _ _)
      hconstants

end Members

/-! ## Class-likes -/

/-- The declarations of a setting come from files of their sides. -/
structure Setting.LocatedIn (before after : Path → Prop) (s : Setting) : Prop where
  before : s.before.LocatedIn before
  after : s.after.LocatedIn after

section ClassLikes

variable {before after : Path → Prop} {s : Setting}

private theorem stand_gainedMark (context : Context) (b : Located ClassLike)
    {a : Located ClassLike} (ha : after a.location) :
    (gainedMark s context b a).Stand before after := by
  unfold gainedMark
  split
  · exact Findings.stand_ofMembership (standing_operation (by decide) ha _ _ _)
  · exact Findings.stand_empty

private theorem stand_lostMark (context : Context) (b : Located ClassLike)
    {a : Located ClassLike} (ha : after a.location) :
    (lostMark s context b a).Stand before after := by
  unfold lostMark
  split
  · exact Findings.stand_ofMembership (standing_operation (by decide) ha _ _ _)
  · exact Findings.stand_empty

/-- A look-up that may fall back on a declaration of the same side stays on that side. -/
private theorem located_getD {r : Registry ClassLike} {q : Path → Prop} (hr : r.LocatedIn q)
    (context : Context) (key : String) {part : Located ClassLike} (hpart : q part.location) :
    q ((r.find? context key).getD part).location := by
  cases hfound : r.find? context key with
  | none => exact hpart
  | some whole => exact hr context key whole hfound

/-- The rules for class-likes name files of both sides. -/
theorem stand_classRules (hs : s.LocatedIn before after) (scope : Scope) (context : Context) :
    (classRules scope s context).Stand before after where
  added key a r hl hr := by
    cases hr
    exact Findings.stand_ofChanges (standing_operation (by decide) hl _ _ _)
  removed key b r hl hr := by
    cases hr
    exact Findings.stand_ofChanges (standing_loss (by decide) hl _ _ _)
  membershipAdded key b a r hb ha hr := by
    simp only [classRules] at hr
    split at hr
    · cases hr
      exact Findings.stand_empty
    · rename_i whole hwhole
      obtain ⟨members, hmembers, hr⟩ := exists_of_bind_eq_ok hr
      cases hr
      have hlocation : after whole.location := hs.after context key whole hwhole
      exact (stand_gainedMark context b ha).append (stand_memberFindings hlocation hb hmembers)
  membershipRemoved key b a r hb ha hr := by
    simp only [classRules] at hr
    split at hr
    · cases hr
      exact Findings.stand_empty
    · rename_i whole hwhole
      obtain ⟨members, hmembers, hr⟩ := exists_of_bind_eq_ok hr
      cases hr
      have hlocation : before whole.location := hs.before context key whole hwhole
      exact (stand_lostMark context b ha).append (stand_memberFindings ha hlocation hmembers)
  changed key b a r hb ha hr := by
    obtain ⟨members, hmembers, hr⟩ := exists_of_bind_eq_ok hr
    cases hr
    have hbefore := located_getD hs.before context key hb
    have hafter := located_getD hs.after context key ha
    refine .append ?head (stand_memberFindings hafter hbefore hmembers)
    case head =>
      split
      · exact Findings.stand_ofChanges (standing_compareHeads _ ha)
      · exact (stand_gainedMark context b ha).append (stand_lostMark context b ha)

/-- The findings of all contexts name files of both sides. -/
private theorem stand_findings (hs : s.LocatedIn before after) {scope : Scope}
    {views : Context → Views ClassLike} (hviews : ∀ context, (views context).LocatedIn before after)
    {r : Findings} (hr : findings scope s views = .ok r) : r.Stand before after :=
  Findings.stand_collect hr fun context _ _ hpart =>
    Division.stand_apply (stand_classRules hs scope context) (hviews context) hpart

/-- The findings on published surfaces name files of their sides. -/
theorem stand_publishedDifferences (hs : s.LocatedIn before after)
    {surfaceBefore surfaceAfter : Registry ClassLike} (hb : surfaceBefore.LocatedIn before)
    (ha : surfaceAfter.LocatedIn after) {r : Findings}
    (hr : publishedDifferences s surfaceBefore surfaceAfter = .ok r) : r.Stand before after := by
  refine stand_findings hs (fun context => ?_) hr
  exact ⟨hb.inContext context, ha.inContext context, hs.before.inContext context,
    hs.after.inContext context⟩

/-- The differences of all declarations name files of their sides. -/
theorem standing_allDifferences (hs : s.LocatedIn before after) {ops : List Operation}
    (hr : allDifferences s = .ok ops) : Standing before after ops := by
  obtain ⟨found, hfound, rfl⟩ := exists_of_map_eq_ok hr
  refine (stand_findings hs (fun context => ?_) hfound).changes
  exact ⟨hs.before.inContext context, hs.after.inContext context, hs.before.inContext context,
    hs.after.inContext context⟩

end ClassLikes

end Php

end VersionBump
