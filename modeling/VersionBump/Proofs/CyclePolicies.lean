import VersionBump.Proofs.AssessmentStages
import VersionBump.Proofs.DetectedCycles
import VersionBump.Proofs.TwinPhpOperations

/-!
# Cycle policies

The policy that complains about cycles only ever refuses. As long as no walk meets its own path, the
two policies give the same answers; and where a walk along the inherits relation meets its path, the
path closes to a cycle of that relation.

* `Hierarchy.OnCycle` names an entity on a cycle of the inherits relation.
* `Hierarchy.matches_inheritsFrom` compares the answers under the two policies.
* `assess_policies` is the statement for whole comparisons.
-/

namespace VersionBump

namespace Php

namespace Hierarchy

/-- The name belongs to an entity from which the inherits relation leads back to it. -/
structure OnCycle (h : Hierarchy) (name : String) : Prop where
  named : ∃ e, h.entity? name = some e ∧ e.name = name
  cycle : Relation.TransGen h.Extends (Name.key name) (Name.key name)

/-- A complaint about a cycle of the inherits relation. -/
def Justifies (h : Hierarchy) (c : Cycle) : Prop := h.OnCycle c.entity

/-- The two policies give the same answers about inheritance, unless the one that complains about
cycles has met one. -/
theorem matches_inheritsFrom {h : Hierarchy} (hc : h.Closed) (child ancestor : String) :
    Matches h.Justifies (· = ·) ((h.withPolicy .error).inheritsFrom child ancestor)
      ((h.withPolicy .ignore).inheritsFrom child ancestor) := by
  have hstrict := hc.withPolicy .error
  cases ha : (h.withPolicy .error).inheritsFrom child ancestor with
  | ok answer =>
    have hlenient : (h.withPolicy .ignore).inheritsFrom child ancestor = .ok answer :=
      inheritsFrom_agrees hstrict child ancestor answer ha
    rw [hlenient]
    exact .ok rfl
  | error c =>
    obtain ⟨met, e, hcycle, he, hname⟩ := names_cycle_of_inheritsFrom hstrict ha
    -- The complaint gives the name of the entity, and its key leads back to the entity.
    have hkey : Name.key c.entity = met := hname ▸ hc.key_name met e he
    refine .refused ⟨⟨e, ?_, hname⟩, ?_⟩ _
    · rw [entity?, hkey]
      exact he
    · rw [hkey]
      exact hcycle

end Hierarchy

end Php

/-! ## Whole comparisons -/

open Severity.Table

/-- The snapshot with the hierarchy of a list of declarations. -/
def Snapshot.withHierarchy (s : Snapshot) (declarations : List Php.ClassLike)
    (policy : Php.CyclePolicy) : Snapshot :=
  { s with hierarchy := Php.Hierarchy.build declarations policy }

/-- Findings that hold twins of one table are equal. -/
private theorem Findings.Related.eq {t : Severity.Table} {family : Family} {a b : Findings}
    (h : Findings.Related (t.Twins t family) a b) : a = b := by
  obtain ⟨changes, membership⟩ := a
  obtain ⟨changes', membership'⟩ := b
  rw [Findings.mk.injEq]
  exact ⟨Parallel.eq h.changes, Parallel.eq h.membership⟩

section Policies

variable (t : Severity.Table) (before after : Snapshot) (declarations : List Php.ClassLike)

/-- A comparison that is refused because of a cycle. -/
private def Refused (e : AnalysisError) : Prop :=
  ∃ c, e = .cycle c ∧ (Php.Hierarchy.build declarations .ignore).OnCycle c.entity

/-- The settings under the two policies are parallel. -/
private theorem parallel_policies :
    (phpSetting t before (after.withHierarchy declarations .error)).Parallel
      (Php.Hierarchy.build declarations .ignore).Justifies
      (phpSetting t before (after.withHierarchy declarations .ignore)) where
  before_eq := rfl
  after_eq := rfl
  hierarchy child ancestor := by
    have hmatches := Php.Hierarchy.matches_inheritsFrom
      (Php.Hierarchy.arises_build declarations .ignore).closed child ancestor
    rw [Php.Hierarchy.build_withPolicy, Php.Hierarchy.build_withPolicy] at hmatches
    exact hmatches

private theorem matches_publishedFindings :
    Matches (Refused declarations) (· = ·)
      (publishedFindings t before (after.withHierarchy declarations .error))
      (publishedFindings t before (after.withHierarchy declarations .ignore)) :=
  (Php.matches_publishedDifferences (parallel_policies t before after declarations) _ _).mapError
    (fun _ _ => Findings.Related.eq) fun c hc => ⟨c, rfl, hc⟩

private theorem matches_fullReport :
    Matches (Refused declarations) (· = ·)
      (fullReport t before (after.withHierarchy declarations .error))
      (fullReport t before (after.withHierarchy declarations .ignore)) :=
  ((Php.matches_allDifferences (parallel_policies t before after declarations)).map
    fun _ _ h => congrArg Report.ofList (Parallel.eq h)).mapError
    (fun _ _ h => h) fun c hc => ⟨c, rfl, hc⟩

/-- Under the policy that ignores cycles every comparison has a result. Under the one that complains
about them it has the same result, unless it is refused; and then the complaint names an entity of
the newer side that extends itself, directly or not. -/
theorem assess_policies :
    ∃ r, assess t before (after.withHierarchy declarations .ignore) = .ok r ∧
      (assess t before (after.withHierarchy declarations .error) = .ok r ∨
        ∃ c, assess t before (after.withHierarchy declarations .error) = .error (.cycle c) ∧
          (Php.Hierarchy.build declarations .error).OnCycle c.entity) := by
  have hmatches : Matches (Refused declarations) (· = ·)
      (assess t before (after.withHierarchy declarations .error))
      (assess t before (after.withHierarchy declarations .ignore)) := by
    refine (matches_publishedFindings t before after declarations).bind fun _ published hp => ?_
    refine (matches_fullReport t before after declarations).bind fun _ unpublished hu => ?_
    subst hp hu
    exact .refl _
  have hignore : (assess t before (after.withHierarchy declarations .ignore)).isOk :=
    isOk_assess (Php.Hierarchy.policy_build declarations .ignore)
  obtain ⟨r, hr⟩ := exists_eq_ok_of_isOk hignore
  rw [hr] at hmatches
  refine ⟨r, hr, ?_⟩
  generalize assess t before (after.withHierarchy declarations .error) = outcome at hmatches ⊢
  cases hmatches with
  | ok heq => exact .inl (congrArg Except.ok heq)
  | refused he =>
    obtain ⟨c, rfl, hc⟩ := he
    rw [← Php.Hierarchy.build_withPolicy declarations .ignore .error]
    exact .inr ⟨c, rfl, hc.named, hc.cycle⟩

end Policies

/-- A snapshot with one method, which throws a type. -/
private def throwing (thrown : String) : Snapshot where
  php := Registry.empty.insert .classes "t"
    { name := "T", kind := .classKind, methods := [{ name := "run", throws := [thrown] }] }
    ⟨"t.php.json"⟩

/-- Two types to throw, one of which extends itself. -/
private def thrownTypes : List Php.ClassLike :=
  [{ name := "A", kind := .classKind, parents := ["A"] }, { name := "B", kind := .classKind }]

example : (assess {} (throwing "B") ((throwing "A").withHierarchy thrownTypes .error)).map
    (·.level) = .error (.cycle ⟨"A"⟩) := by decide +kernel

end VersionBump
