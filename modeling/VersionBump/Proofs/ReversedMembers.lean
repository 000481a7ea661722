import VersionBump.Proofs.MemberDetails
import VersionBump.Proofs.PublishedChanges
import VersionBump.Proofs.Reversals

/-!
# Reversed comparisons of members

Comparing the members of a class-like backwards finds a removal for every addition and a move to a
parent for every move from one, at the same targets. What differs between two versions of a member
has no such counterpart and stands aside. The rules for what is added and for what is removed are
written apart from each other, each with its own side for the inherited members; that they agree is
shown once for each family.

* `reversals` lists the kinds that change places, and `Details` says that operations are of others.
* `Pair.Mirrors` relates the two directions of the comparison of a class-like.
* `MemberFamily.Reversible` is what a family contributes, and `reversedRuns_memberFindings` what
  follows for the published members.
-/

namespace VersionBump.Php

/-- The kinds of change of declarations that change places. A method that appears where it is
inherited, before or on both sides, disappears to where it is inherited. -/
def reversals : List Reversal :=
  [.of .php [.added] [.removed],
   .of .php [.parentAdded] [.parentRemoved],
   .of .php [.interfaceAdded] [.interfaceRemoved],
   .of .php [.traitAdded] [.traitRemoved],
   .of .php [.methodAdded] [.methodRemoved],
   .of .php [.propertyAdded] [.propertyRemoved],
   .of .php [.constantAdded] [.constantRemoved],
   .of .php [.methodMovedFromParent, .methodOverwriteAdded] [.methodMovedToParent],
   .of .php [.propertyMovedFromParent] [.propertyMovedToParent],
   .of .php [.constantMovedFromParent] [.constantMovedToParent],
   .of .php [.membershipAdded .declaration] [.membershipRemoved .declaration],
   .of .php [.membershipAdded .method] [.membershipRemoved .method],
   .of .php [.membershipAdded .property] [.membershipRemoved .property],
   .of .php [.membershipAdded .constant] [.membershipRemoved .constant]]

/-! ## Details -/

/-- Operations about details only. -/
def Details (ops : List Operation) : Prop := ∀ op ∈ ops, op.kind.Neutral reversals

/-- The kinds of details have no counterparts. -/
private theorem neutral_of_mem_details : ∀ kind ∈ Change.details, kind.Neutral reversals := by
  decide

theorem DetailsAt.details {p : Pair} {part : Member} {named : String → Prop} {location : Path}
    {ops : List Operation} (h : DetailsAt p part named location ops) : Details ops :=
  fun op hop => neutral_of_mem_details op.kind (h op hop).kind

/-! ## Members -/

/-- Two versions of one class-like and the same versions in the other direction. The name is spelled
alike in both. -/
structure Pair.Mirrors (p p' : Pair) : Prop where
  registryBefore : p'.setting.before = p.setting.after
  registryAfter : p'.setting.after = p.setting.before
  context : p'.context = p.context
  before : p'.before = p.after
  after : p'.after = p.before
  fqn : p.before.value.fqn = p.after.value.fqn

section Members

variable {p p' : Pair}

theorem Pair.Mirrors.symm (h : p.Mirrors p') : p'.Mirrors p where
  registryBefore := h.registryAfter.symm
  registryAfter := h.registryBefore.symm
  context := h.context.symm
  before := h.after.symm
  after := h.before.symm
  fqn := by rw [h.before, h.after, h.fqn]

/-- Members have the same targets in both directions. -/
theorem Pair.Mirrors.target_eq (h : p.Mirrors p') (member : String) :
    p.target member = p'.target member := by
  rw [Pair.target, Pair.target, h.after, h.fqn]

/-- Changes of reverse kinds at one member. -/
theorem reversed_op (h : p.Mirrors p') {kind kind' : PhpChange}
    (hkind : (Change.php kind).Reverses reversals (.php kind')) (member : String)
    (location location' : Path) :
    Reversed reversals [p.op kind (p.target member) location]
      [p'.op kind' (p'.target member) location'] :=
  .singleton hkind h.context.symm (h.target_eq member)

/-- A change with details has the reverse change with other details as its reverse. -/
private theorem Reversed.cons_details {op op' : Operation} {details details' : List Operation}
    (h : Reversed reversals [op] [op']) (hdetails : Details details)
    (hdetails' : Details details') : Reversed reversals (op :: details) (op' :: details') :=
  h.append (.of_neutral hdetails hdetails')

/-- A family of which the additions are reversed by removals and of which two versions of a member
differ in details. -/
structure MemberFamily.Reversible {α : Type} (f : MemberFamily α) : Prop where
  added : ∀ {p p' : Pair}, p.Mirrors p' → ∀ key a,
    ReversedRuns reversals ((f.rules p).added key a) ((f.rules p').removed key a)
  changed : ∀ {p key b a found}, (f.rules p).changed key b a = .ok found →
    Details found.changes ∧ found.membership = []

/-- Methods are reversible. -/
theorem reversible_methodFamily : methodFamily.Reversible where
  added {p p'} h key a := by
    intro found found' hfound hfound'
    -- Both directions look for the inherited method on the same side.
    simp only [methodFamily, methodRules, h.registryAfter, h.after] at hfound hfound'
    cases hinherited : inheritedMethod? p.setting.before p.before.value a.value.name with
    | none =>
      rw [hinherited] at hfound hfound'
      cases hfound
      cases hfound'
      exact .ofChanges (reversed_op h (by decide) _ _ _)
    | some inherited =>
      rw [hinherited] at hfound hfound'
      obtain ⟨details, hdetails, hfound⟩ := exists_of_bind_eq_ok hfound
      obtain ⟨details', hdetails', hfound'⟩ := exists_of_bind_eq_ok hfound'
      cases hfound
      cases hfound'
      refine .ofChanges (Reversed.cons_details (reversed_op h ?_ _ _ _)
        (detailsAt_compareMethods hdetails).details (detailsAt_compareMethods hdetails').details)
      -- Whether it is a move or an overwrite depends on the later side, and both are one group.
      split <;> decide
  changed {p key b a found} h := by
    obtain ⟨details, hdetails, h⟩ := exists_of_bind_eq_ok h
    cases h
    exact ⟨(detailsAt_compareMethods hdetails).details, rfl⟩

/-- Properties are reversible. -/
theorem reversible_propertyFamily : propertyFamily.Reversible where
  added {p p'} h key a := by
    intro found found' hfound hfound'
    simp only [propertyFamily, propertyRules, h.registryAfter, h.after] at hfound hfound'
    cases hinherited : inheritedProperty? p.setting.before p.before.value a.value.key with
    | none =>
      rw [hinherited] at hfound hfound'
      cases hfound
      cases hfound'
      exact .ofChanges (reversed_op h (by decide) _ _ _)
    | some inherited =>
      rw [hinherited] at hfound hfound'
      cases hfound
      cases hfound'
      exact .ofChanges (Reversed.cons_details (reversed_op h (by decide) _ _ _)
        (detailsAt_compareProperties p _ _ _).details (detailsAt_compareProperties p' _ _ _).details)
  changed {p key b a found} h := by
    cases h
    exact ⟨(detailsAt_compareProperties p _ _ _).details, rfl⟩

/-- Constants are reversible. -/
theorem reversible_constantFamily : constantFamily.Reversible where
  added {p p'} h key a := by
    intro found found' hfound hfound'
    simp only [constantFamily, constantRules, h.registryAfter, h.after] at hfound hfound'
    cases hinherited : inheritedConstant? p.setting.before p.before.value a.value.name with
    | none =>
      rw [hinherited] at hfound hfound'
      cases hfound
      cases hfound'
      exact .ofChanges (reversed_op h (by decide) _ _ _)
    | some inherited =>
      rw [hinherited] at hfound hfound'
      cases hfound
      cases hfound'
      exact .ofChanges (Reversed.cons_details (reversed_op h (by decide) _ _ _)
        (detailsAt_compareConstants p _ _ _).details (detailsAt_compareConstants p' _ _ _).details)
  changed {p key b a found} h := by
    cases h
    exact ⟨(detailsAt_compareConstants p _ _ _).details, rfl⟩

namespace MemberFamily

variable {α : Type} {f : MemberFamily α}

/-- A member that enters the published surface leaves it backwards. -/
private theorem reversedRuns_membershipAdded (h : p.Mirrors p') (key : String) (b a : Located α) :
    ReversedRuns reversals ((f.rules p).membershipAdded key b a)
      ((f.rules p').membershipRemoved key a b) := by
  rw [f.membershipAdded_eq, f.membershipRemoved_eq]
  refine .ok (.ofMembership (reversed_op h ?_ _ _ _))
  cases f.part <;> decide

/-- Two versions of a member differ in details, in both directions. -/
private theorem Reversible.reversedRuns_changed (hf : f.Reversible) (key : String)
    (b a : Located α) :
    ReversedRuns reversals ((f.rules p).changed key b a) ((f.rules p').changed key a b) := by
  intro found found' hfound hfound'
  obtain ⟨hdetails, hmembership⟩ := hf.changed hfound
  obtain ⟨hdetails', hmembership'⟩ := hf.changed hfound'
  constructor
  · exact .of_neutral hdetails hdetails'
  · rw [hmembership, hmembership']
    exact .nil

/-- The rules of a reversible family are reversed in all classes of a division. -/
theorem Reversible.rules (hf : f.Reversible) (h : p.Mirrors p') (v : Views α) :
    (f.rules p).Reversed reversals v (f.rules p') where
  added key a _ := hf.added h key a
  removed key b _ := (hf.added h.symm key b).symm
  membershipAdded key b a _ := reversedRuns_membershipAdded h key b a
  membershipRemoved key b a _ := (reversedRuns_membershipAdded h.symm key a b).symm
  changed key b a _ := hf.reversedRuns_changed key b a

/-- The published members are divided in reverse. -/
theorem Reversible.apply_views (hf : f.Reversible) (h : p.Mirrors p') :
    ReversedRuns reversals ((f.views p).divide.apply (f.rules p))
      ((f.views p').divide.apply (f.rules p')) := by
  have hviews : f.views p' = (f.views p).swap := by
    rw [views, h.before, h.after]
    rfl
  rw [hviews]
  exact Division.reversedRuns_apply (hf.rules h _)

/-- All members are divided in reverse. -/
theorem Reversible.apply_allViews (hf : f.Reversible) (h : p.Mirrors p') :
    ReversedRuns reversals ((f.allViews p).divide.apply (f.rules p))
      ((f.allViews p').divide.apply (f.rules p')) := by
  have hviews : f.allViews p' = (f.allViews p).swap := by
    rw [allViews, h.before, h.after]
    rfl
  rw [hviews]
  exact Division.reversedRuns_apply (hf.rules h _)

end MemberFamily

/-- The published members of two versions are reversed. -/
theorem reversedRuns_memberFindings (h : p.Mirrors p') : ReversedRuns reversals
    (memberFindings p ⟨p.before.value.surface?, p.after.value.surface?⟩)
    (memberFindings p' ⟨p'.before.value.surface?, p'.after.value.surface?⟩) := by
  intro found found' hfound hfound'
  obtain ⟨methods, properties, constants, hm, hp, hc, rfl⟩ := memberFindings_eq_ok_iff.mp hfound
  obtain ⟨methods', properties', constants', hm', hp', hc', rfl⟩ :=
    memberFindings_eq_ok_iff.mp hfound'
  have hmethods := reversible_methodFamily.apply_views h _ _ hm hm'
  have hproperties := reversible_propertyFamily.apply_views h _ _ hp hp'
  have hconstants := reversible_constantFamily.apply_views h _ _ hc hc'
  exact (hmethods.append hproperties).append hconstants

/-- All members of two versions are reversed. -/
theorem reversedRuns_allMemberFindings (h : p.Mirrors p') : ReversedRuns reversals
    (memberFindings p ⟨some p.before.value, some p.after.value⟩)
    (memberFindings p' ⟨some p'.before.value, some p'.after.value⟩) := by
  intro found found' hfound hfound'
  obtain ⟨methods, properties, constants, hm, hp, hc, rfl⟩ := allMemberFindings_eq_ok_iff.mp hfound
  obtain ⟨methods', properties', constants', hm', hp', hc', rfl⟩ :=
    allMemberFindings_eq_ok_iff.mp hfound'
  have hmethods := reversible_methodFamily.apply_allViews h _ _ hm hm'
  have hproperties := reversible_propertyFamily.apply_allViews h _ _ hp hp'
  have hconstants := reversible_constantFamily.apply_allViews h _ _ hc hc'
  exact (hmethods.append hproperties).append hconstants

end Members

end VersionBump.Php
