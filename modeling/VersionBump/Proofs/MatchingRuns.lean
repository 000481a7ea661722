import Mathlib.Data.List.Forall2
import VersionBump.Division

/-!
# Matching runs

Two comparisons of the same declarations in different settings run side by side: they look at the
same things in the same order, and at each step they find related operations or both complain. The
first may also refuse to go on where the second does not, and then it has no result at all.

* `Matches` relates two computations, and `Matches.bind` runs related ones on.
* `Findings.Related` relates what they find, operation by operation.
* `DivisionRules.Matches.apply` runs a division by two sets of rules.
-/

namespace VersionBump

/-- Two computations match if they give related results or the same complaint, unless the first one
is refused. -/
inductive Matches {α β ε : Type} (refused : ε → Prop) (rel : α → β → Prop) :
    Except ε α → Except ε β → Prop
  | ok {a b} (h : rel a b) : Matches refused rel (.ok a) (.ok b)
  | error (e) : Matches refused rel (.error e) (.error e)
  | refused {e} (h : refused e) (y) : Matches refused rel (.error e) y

namespace Matches

variable {α β γ δ ε : Type} {refused : ε → Prop} {rel : α → β → Prop}

/-- Sequences match if their first steps do, and the rests on all related results. -/
theorem bind {rel' : γ → δ → Prop} {x : Except ε α} {y : Except ε β} {f : α → Except ε γ}
    {g : β → Except ε δ} (h : Matches refused rel x y)
    (hf : ∀ a b, rel a b → Matches refused rel' (f a) (g b)) :
    Matches refused rel' (x >>= f) (y >>= g) := by
  cases h with
  | ok hab => exact hf _ _ hab
  | error e => exact .error e
  | refused he y => exact .refused he _

/-- Matching computations still match after their results have been changed alike. -/
theorem map {rel' : γ → δ → Prop} {x : Except ε α} {y : Except ε β} {f : α → γ} {g : β → δ}
    (h : Matches refused rel x y) (hf : ∀ a b, rel a b → rel' (f a) (g b)) :
    Matches refused rel' (x.map f) (y.map g) := by
  cases h with
  | ok hab => exact .ok (hf _ _ hab)
  | error e => exact .error e
  | refused he y => exact .refused he _

/-- Matching computations still match after their complaints have been changed alike, and under a
weaker relation of their results. -/
theorem mapError {ε' : Type} {refused' : ε' → Prop} {rel' : α → β → Prop} {x : Except ε α}
    {y : Except ε β} {f : ε → ε'} (h : Matches refused rel x y) (hrel : ∀ a b, rel a b → rel' a b)
    (hf : ∀ e, refused e → refused' (f e)) :
    Matches refused' rel' (x.mapError f) (y.mapError f) := by
  cases h with
  | ok hab => exact .ok (hrel _ _ hab)
  | error e => exact .error (f e)
  | refused he y => exact .refused (hf _ he) _

/-- A computation matches itself. -/
theorem refl (x : Except ε α) : Matches refused (· = ·) x x := by
  cases x with
  | error e => exact .error e
  | ok a => exact .ok rfl

/-- A run that is not refused gives a result exactly if the other one does. -/
theorem isOk_iff {x : Except ε α} {y : Except ε β} (h : Matches refused rel x y)
    (hnone : ∀ e, ¬ refused e) : x.isOk = true ↔ y.isOk = true := by
  cases h with
  | ok => exact Iff.rfl
  | error => exact Iff.rfl
  | refused he => exact absurd he (hnone _)

/-- Where both runs give results, these are related. -/
theorem of_ok {x : Except ε α} {y : Except ε β} (h : Matches refused rel x y) {a : α} {b : β}
    (hx : x = .ok a) (hy : y = .ok b) : rel a b := by
  subst hx hy
  cases h with
  | ok hab => exact hab

end Matches

/-! ## Findings -/

namespace Findings

/-- Two findings hold related operations in the same order. What enters or leaves the published
surface may be related in another way than all else. -/
structure Related (rel : Bool → Operation → Operation → Prop) (a b : Findings) : Prop where
  changes : List.Forall₂ (rel false) a.changes b.changes
  membership : List.Forall₂ (rel true) a.membership b.membership

variable {rel : Bool → Operation → Operation → Prop}

/-- Where nothing is found, the findings are related. -/
theorem related_empty : Related rel {} {} := ⟨.nil, .nil⟩

/-- Findings put together are related if the parts are. -/
theorem Related.append {a a' b b' : Findings} (h : Related rel a a') (h' : Related rel b b') :
    Related rel (a ++ b) (a' ++ b') :=
  ⟨List.rel_append h.changes h'.changes, List.rel_append h.membership h'.membership⟩

/-- Related changes are related findings. -/
theorem related_ofChanges {ops ops' : List Operation} (h : List.Forall₂ (rel false) ops ops') :
    Related rel (ofChanges ops) (ofChanges ops') :=
  ⟨h, .nil⟩

/-- Two related changes of the published surface are related findings. -/
theorem related_ofMembership {op op' : Operation} (h : rel true op op') :
    Related rel (ofMembership op) (ofMembership op') :=
  ⟨.nil, .cons h .nil⟩

/-- Collections match if all their elements do. -/
theorem matches_collect {α ε : Type} {refused : ε → Prop} {f g : α → Except ε Findings}
    {xs : List α} (h : ∀ x ∈ xs, Matches refused (Related rel) (f x) (g x)) :
    Matches refused (Related rel) (collect f xs) (collect g xs) := by
  induction xs with
  | nil => exact .ok related_empty
  | cons x xs ih =>
    refine (h x List.mem_cons_self).bind fun first first' hfirst => ?_
    refine (ih fun y hy => h y (List.mem_cons_of_mem x hy)).bind fun others others' hothers => ?_
    exact .ok (hfirst.append hothers)

end Findings

/-! ## Divisions -/

/-- Two sets of rules that match on every declaration. -/
structure DivisionRules.Matches {α ε : Type} (refused : ε → Prop)
    (rel : Bool → Operation → Operation → Prop) (rules rules' : DivisionRules α ε) : Prop where
  added : ∀ key a, VersionBump.Matches refused (Findings.Related rel) (rules.added key a)
    (rules'.added key a)
  removed : ∀ key b, VersionBump.Matches refused (Findings.Related rel) (rules.removed key b)
    (rules'.removed key b)
  membershipAdded : ∀ key b a, VersionBump.Matches refused (Findings.Related rel)
    (rules.membershipAdded key b a) (rules'.membershipAdded key b a)
  membershipRemoved : ∀ key b a, VersionBump.Matches refused (Findings.Related rel)
    (rules.membershipRemoved key b a) (rules'.membershipRemoved key b a)
  changed : ∀ key b a, VersionBump.Matches refused (Findings.Related rel) (rules.changed key b a)
    (rules'.changed key b a)

/-- A division by matching rules matches. -/
theorem DivisionRules.Matches.apply {α ε : Type} {refused : ε → Prop}
    {rel : Bool → Operation → Operation → Prop} {rules rules' : DivisionRules α ε}
    (h : rules.Matches refused rel rules') (d : Division α) :
    VersionBump.Matches refused (Findings.Related rel) (d.apply rules) (d.apply rules') := by
  refine (Findings.matches_collect fun e _ => h.added e.1 e.2).bind fun added added' ha => ?_
  refine (Findings.matches_collect fun e _ => h.removed e.1 e.2).bind fun removed removed' hr => ?_
  refine (Findings.matches_collect fun e _ => h.membershipAdded e.1 e.2.1 e.2.2).bind
    fun entered entered' he => ?_
  refine (Findings.matches_collect fun e _ => h.membershipRemoved e.1 e.2.1 e.2.2).bind
    fun left left' hl => ?_
  refine (Findings.matches_collect fun e _ => h.changed e.1 e.2.1 e.2.2).bind
    fun changed changed' hc => ?_
  exact .ok ((((ha.append hr).append he).append hl).append hc)

end VersionBump
