import VersionBump.Assessment
import VersionBump.Proofs.Outcomes

/-!
# Ignored cycles

The only complaint that a comparison of loaded snapshots knows is a cycle in the hierarchy. Under
the policy that ignores cycles there is none, so every comparison has a result.

* `DivisionRules.Succeeds` says that no rule of a division complains, and
  `DivisionRules.Succeeds.apply` that the division does not complain either.
* `isOk_assess` follows this from the walks through the hierarchy up to the whole comparison.
-/

namespace VersionBump

/-- A collection succeeds if each of its elements does. -/
theorem Findings.isOk_collect {α ε : Type} {f : α → Except ε Findings} (h : ∀ x, (f x).isOk)
    (xs : List α) : (collect f xs).isOk := by
  induction xs with
  | nil => rfl
  | cons x xs ih => exact isOk_bind (h x) fun _ => isOk_bind ih fun _ => rfl

/-- No rule of a division complains. -/
structure DivisionRules.Succeeds {α ε : Type} (rules : DivisionRules α ε) : Prop where
  added : ∀ key a, (rules.added key a).isOk
  removed : ∀ key b, (rules.removed key b).isOk
  membershipAdded : ∀ key b a, (rules.membershipAdded key b a).isOk
  membershipRemoved : ∀ key b a, (rules.membershipRemoved key b a).isOk
  changed : ∀ key b a, (rules.changed key b a).isOk

/-- A division whose rules do not complain does not complain. -/
theorem DivisionRules.Succeeds.apply {α ε : Type} {rules : DivisionRules α ε} (h : rules.Succeeds)
    (d : Division α) : (d.apply rules).isOk := by
  have hadded := fun e : String × Located α => h.added e.1 e.2
  have hremoved := fun e : String × Located α => h.removed e.1 e.2
  have hentered := fun e : String × Located α × Located α => h.membershipAdded e.1 e.2.1 e.2.2
  have hleft := fun e : String × Located α × Located α => h.membershipRemoved e.1 e.2.1 e.2.2
  have hchanged := fun e : String × Located α × Located α => h.changed e.1 e.2.1 e.2.2
  refine isOk_bind (Findings.isOk_collect hadded _) fun _ => ?_
  refine isOk_bind (Findings.isOk_collect hremoved _) fun _ => ?_
  refine isOk_bind (Findings.isOk_collect hentered _) fun _ => ?_
  refine isOk_bind (Findings.isOk_collect hleft _) fun _ => ?_
  exact isOk_bind (Findings.isOk_collect hchanged _) fun _ => rfl

namespace Php

/-! ## Walks -/

namespace Hierarchy

/-- Trying candidates succeeds if every attempt does. -/
private theorem isOk_firstHit {σ κ ε : Type} {attempt : σ → κ → Except ε (Bool × σ)}
    (h : ∀ s x, (attempt s x).isOk) (xs : List κ) (s : σ) : (firstHit attempt xs s).isOk := by
  induction xs generalizing s with
  | nil => rfl
  | cons x xs ih =>
    refine isOk_bind (h s x) fun a => ?_
    obtain ⟨hit, s⟩ := a
    cases hit with
    | true => rfl
    | false => exact ih s

variable {h : Hierarchy}

/-- A walk that ignores cycles has an answer. -/
theorem isOk_walk (hp : h.policy = .ignore) (q : Search) (depth : Nat) (path visited : List String) :
    (h.walk q depth path visited).isOk := by
  induction depth generalizing path visited with
  | zero => rfl
  | succ depth ih =>
    rw [walk]
    refine isOk_firstHit (fun visited next => ?_) _ visited
    -- On the path, visited before, a hit, or one step further.
    split
    · rw [hp]
      rfl
    · split
      · rfl
      · split
        · rfl
        · exact ih _ _

/-- Whether one class inherits from another has an answer if cycles are ignored. -/
theorem isOk_inheritsFrom (hp : h.policy = .ignore) (child ancestor : String) :
    (h.inheritsFrom child ancestor).isOk := by
  unfold inheritsFrom
  split
  · split
    · rfl
    · exact isOk_map (isOk_walk hp _ _ _ _)
  · rfl

end Hierarchy

/-! ## Members -/

variable {h : Hierarchy} {s : Setting} {p : Pair}

private theorem isOk_relateThrown (hp : h.policy = .ignore) (thrown : String)
    (previous : List (String × String)) : (relateThrown h thrown previous).isOk := by
  induction previous with
  | nil => rfl
  | cons e rest ih =>
    refine isOk_bind (Hierarchy.isOk_inheritsFrom hp thrown e.2) fun narrower => ?_
    cases narrower with
    | true => rfl
    | false =>
      refine isOk_bind (Hierarchy.isOk_inheritsFrom hp e.2 thrown) fun wider => ?_
      cases wider with
      | true => rfl
      | false => exact ih

private theorem isOk_relateAllThrown (hp : h.policy = .ignore)
    (before after : List (String × String)) : (relateAllThrown h before after).isOk := by
  induction after with
  | nil => rfl
  | cons e rest ih =>
    exact isOk_bind (isOk_relateThrown hp e.2 before) fun _ => isOk_bind ih fun _ => rfl

private theorem isOk_compareMethods (hp : p.setting.hierarchy.policy = .ignore) (location : Path)
    (before after : Method) : (compareMethods p location before after).isOk :=
  isOk_bind (isOk_bind (isOk_relateAllThrown hp _ _) fun _ => rfl) fun _ => rfl

private theorem succeeds_methodRules (hp : p.setting.hierarchy.policy = .ignore) :
    (methodRules p).Succeeds where
  added _ a := by
    dsimp only [methodRules]
    split
    · rfl
    · exact isOk_bind (isOk_compareMethods hp _ _ _) fun _ => rfl
  removed _ b := by
    dsimp only [methodRules]
    split
    · rfl
    · exact isOk_bind (isOk_compareMethods hp _ _ _) fun _ => rfl
  membershipAdded _ _ _ := rfl
  membershipRemoved _ _ _ := rfl
  changed _ b a := isOk_bind (isOk_compareMethods hp _ _ _) fun _ => rfl

/-- Properties throw nothing. -/
private theorem succeeds_propertyRules (p : Pair) : (propertyRules p).Succeeds where
  added _ a := by
    dsimp only [propertyRules]
    split <;> rfl
  removed _ b := by
    dsimp only [propertyRules]
    split <;> rfl
  membershipAdded _ _ _ := rfl
  membershipRemoved _ _ _ := rfl
  changed _ _ _ := rfl

/-- Constants throw nothing. -/
private theorem succeeds_constantRules (p : Pair) : (constantRules p).Succeeds where
  added _ a := by
    dsimp only [constantRules]
    split <;> rfl
  removed _ b := by
    dsimp only [constantRules]
    split <;> rfl
  membershipAdded _ _ _ := rfl
  membershipRemoved _ _ _ := rfl
  changed _ _ _ := rfl

private theorem isOk_memberFindings (hp : p.setting.hierarchy.policy = .ignore)
    (parts : PublishedParts) : (memberFindings p parts).isOk :=
  isOk_bind ((succeeds_methodRules hp).apply _) fun _ =>
    isOk_bind ((succeeds_propertyRules p).apply _) fun _ =>
    isOk_bind ((succeeds_constantRules p).apply _) fun _ => rfl

/-! ## Class-likes -/

private theorem succeeds_classRules (hp : s.hierarchy.policy = .ignore) (scope : Scope)
    (context : Context) : (classRules scope s context).Succeeds where
  added _ _ := rfl
  removed _ _ := rfl
  membershipAdded _ b a := by
    dsimp only [classRules]
    split
    · rfl
    · exact isOk_bind (isOk_memberFindings hp _) fun _ => rfl
  membershipRemoved _ b a := by
    dsimp only [classRules]
    split
    · rfl
    · exact isOk_bind (isOk_memberFindings hp _) fun _ => rfl
  changed _ b a := isOk_bind (isOk_memberFindings hp _) fun _ => rfl

/-- The divisions of all contexts succeed if cycles are ignored. -/
theorem isOk_findings (hp : s.hierarchy.policy = .ignore) (scope : Scope)
    (views : Context → Views ClassLike) : (findings scope s views).isOk :=
  Findings.isOk_collect (fun context => (succeeds_classRules hp scope context).apply _) _

end Php

/-- A comparison that ignores cycles has a result. -/
theorem isOk_assess {t : Severity.Table} {before after : Snapshot}
    (hp : after.hierarchy.policy = .ignore) : (assess t before after).isOk :=
  isOk_bind (isOk_mapError (Php.isOk_findings hp _ _)) fun _ =>
    isOk_bind (isOk_mapError (isOk_map (isOk_map (Php.isOk_findings hp _ _)))) fun _ => rfl

end VersionBump
