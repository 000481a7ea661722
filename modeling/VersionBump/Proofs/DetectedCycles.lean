import VersionBump.Proofs.ReachableEntities

/-!
# Detected cycles

Under the policy that complains about cycles a search either answers as it would if cycles were
ignored, or names an entity on a cycle that it has come to. It answers that nothing meets the goal
only if no cycle can be reached at all.

* `Traversal.names_cycle`: the path leads to each candidate, so a candidate on the path closes a
  cycle.
* `Settled` describes the entities that a walk has left for good, and `Traversal.settled` says that
  a walk without a hit leaves all candidates so.
* `Detects` is what the answers under the two policies have to do with cycles, and
  `Arises.detects_cycles` the statement for the three questions.
-/

open Relation (TransGen ReflTransGen)

namespace VersionBump.Php

namespace Hierarchy

variable {h : Hierarchy} {q : Search} {path candidates visited seen : List String}
  {outcome : Except Cycle (Bool × List String)} {key : String}

/-! ## Complaints -/

/-- What a search leads to is an entity of a closed hierarchy. -/
private theorem Closed.contains_of_transGen (hc : h.Closed) {next : String}
    (hleads : TransGen (h.Leads q) key next) : h.entities.contains next = true := by
  obtain ⟨last, -, hlast⟩ := Relation.TransGen.tail'_iff.mp hleads
  exact (hc.contains_of_leads hlast).2

/-- A traversal that stops with a complaint has come to an entity on a cycle, and the complaint gives
its name. All of the path leads to the candidates. -/
theorem Traversal.names_cycle (hc : h.Closed) (ht : h.Traversal q path candidates visited outcome)
    {start : String} (hstart : start ∈ path)
    (hpath : ∀ key ∈ path, ∀ next ∈ candidates, TransGen (h.Leads q) key next) {c : Cycle}
    (ho : outcome = .error c) :
    ∃ key e, TransGen (h.Leads q) start key ∧ TransGen (h.Leads q) key key ∧
      h.entities.find? key = some e ∧ e.name = c.entity := by
  induction ht with
  | done => exact nomatch ho
  | ignored _ _ _ ih =>
    exact ih hstart (fun key hkey => (List.forall_mem_cons.mp (hpath key hkey)).2) ho
  | @refused _ _ _ next hmet _ =>
    cases ho
    have hcycle := hpath next hmet next List.mem_cons_self
    obtain ⟨e, he⟩ := Option.isSome_iff_exists.mp (hc.contains_of_transGen hcycle)
    exact ⟨next, e, hpath start hstart next List.mem_cons_self, hcycle, he, by rw [he]; rfl⟩
  | known _ _ _ ih =>
    exact ih hstart (fun key hkey => (List.forall_mem_cons.mp (hpath key hkey)).2) ho
  | hit => exact nomatch ho
  | found => exact nomatch ho
  | @stopped _ _ _ next _ _ _ _ _ ih =>
    -- One step further down the path the whole path leads to what lies next to its new end.
    refine ih (List.mem_cons_of_mem _ hstart) (fun key hkey further hfurther => ?_) ho
    rcases List.mem_cons.mp hkey with rfl | hkey
    · exact .single hfurther
    · exact (hpath key hkey next List.mem_cons_self).tail hfurther
  | passed _ _ _ _ _ _ ihrest =>
    exact ihrest hstart (fun key hkey => (List.forall_mem_cons.mp (hpath key hkey)).2) ho

/-- A search that complains names an entity on a cycle that can be reached from the start. -/
theorem names_cycle_of_reaches (hc : h.Closed) {c : Cycle} (ha : h.reaches q key = .error c) :
    ∃ met e, ReflTransGen (h.Leads q) key met ∧ TransGen (h.Leads q) met met ∧
      h.entities.find? met = some e ∧ e.name = c.entity := by
  obtain ⟨outcome, ht, heq⟩ := exists_traversal hc q key
  have hpath : ∀ k ∈ [key], ∀ next ∈ h.neighbours q.allowed q.direction key,
      TransGen (h.Leads q) k next := by
    intro k hk next hnext
    rw [List.mem_singleton.mp hk]
    exact .single hnext
  cases outcome with
  | ok result => exact nomatch heq.symm.trans ha
  | error c' =>
    obtain rfl := Except.error.inj (heq.symm.trans ha)
    obtain ⟨met, e, hleads, hcycle, he, hname⟩ :=
      ht.names_cycle hc List.mem_cons_self hpath rfl
    exact ⟨met, e, hleads.to_reflTransGen, hcycle, he, hname⟩

/-- Where inheritance is not decided because of a complaint, an entity of that name extends itself,
directly or not. -/
theorem names_cycle_of_inheritsFrom (hc : h.Closed) {child ancestor : String} {c : Cycle}
    (ha : h.inheritsFrom child ancestor = .error c) :
    ∃ met e, TransGen h.Extends met met ∧ h.entities.find? met = some e ∧ e.name = c.entity := by
  unfold inheritsFrom at ha
  split at ha
  case h_1 =>
    split at ha
    case isTrue => exact nomatch ha
    case isFalse =>
      obtain ⟨met, e, -, hcycle, he, hname⟩ := names_cycle_of_reaches hc ha
      rw [leads_inherits] at hcycle
      exact ⟨met, e, hcycle, he, hname⟩
  case h_2 => exact nomatch ha

/-! ## Answers without a hit -/

/-- Entities that lead only to one another and lie on no cycle. -/
structure Settled (h : Hierarchy) (q : Search) (left : String → Prop) : Prop where
  closed : ∀ key, left key → ∀ next, h.Leads q key next → left next
  acyclic : ∀ key, left key → ¬ TransGen (h.Leads q) key key

namespace Settled

variable {left left' : String → Prop}

/-- The same entities may be described in another way. -/
theorem congr (hs : h.Settled q left) (hsame : ∀ key, left key ↔ left' key) :
    h.Settled q left' := by
  rwa [← funext fun key => propext (hsame key)]

/-- What can be reached from settled entities is settled. -/
theorem of_reflTransGen (hs : h.Settled q left) (hkey : left key) {other : String}
    (hleads : ReflTransGen (h.Leads q) key other) : left other := by
  induction hleads with
  | refl => exact hkey
  | tail _ hnext ih => exact hs.closed _ ih _ hnext

/-- An entity that leads only to settled ones and is none of them may be settled too. -/
theorem insert (hs : h.Settled q left) (hnew : ¬ left key)
    (hleads : ∀ next, h.Leads q key next → left next) :
    h.Settled q fun k => k = key ∨ left k := by
  refine ⟨fun k hk next hnext => ?_, fun k hk hcycle => ?_⟩
  · rcases hk with rfl | hk
    · exact .inr (hleads next hnext)
    · exact .inr (hs.closed k hk next hnext)
  · rcases hk with rfl | hk
    · -- A cycle through the entity would lead back to it from a settled one.
      obtain ⟨next, hnext, hback⟩ := Relation.TransGen.head'_iff.mp hcycle
      exact hnew (hs.of_reflTransGen (hleads next hnext) hback)
    · exact hs.acyclic k hk hcycle

end Settled

/-- Where cycles are complained about, a traversal without a hit leaves all candidates for good. -/
theorem Traversal.settled (hp : h.policy = .error)
    (ht : h.Traversal q path candidates visited outcome)
    (hs : h.Settled q fun key => key ∈ visited ∧ key ∉ path) (ho : outcome = .ok (false, seen)) :
    h.Settled q (fun key => key ∈ seen ∧ key ∉ path) ∧
      ∀ next ∈ candidates, next ∈ seen ∧ next ∉ path := by
  induction ht generalizing seen with
  | done =>
    cases ho
    exact ⟨hs, fun next hnext => absurd hnext List.not_mem_nil⟩
  | ignored _ hignore => exact nomatch hp.symm.trans hignore
  | refused => exact nomatch ho
  | known hpath hmet hrest ih =>
    obtain ⟨hsettled, hcandidates⟩ := ih hs ho
    exact ⟨hsettled,
      List.forall_mem_cons.mpr ⟨⟨(hrest.suffix ho).subset hmet, hpath⟩, hcandidates⟩⟩
  | hit => exact nomatch ho
  | found => exact nomatch ho
  | stopped => exact nomatch ho
  | @passed path rest visited between next _ hpath hnew _ hinner hrest ih ihrest =>
    have hdeeper : h.Settled q fun key => key ∈ next :: visited ∧ key ∉ next :: path := by
      refine hs.congr fun key => ?_
      by_cases hkey : key = next
      · subst hkey
        simp [hnew]
      · simp [hkey]
    obtain ⟨hinside, hneighbours⟩ := ih hdeeper rfl
    have hnext : next ∈ between := (hinner.suffix rfl).subset List.mem_cons_self
    -- The first candidate leads to nothing but what has been left, so it is left too.
    have hbetween : h.Settled q fun key => key ∈ between ∧ key ∉ path := by
      have houtside : ¬ (next ∈ between ∧ next ∉ next :: path) := fun h => h.2 List.mem_cons_self
      refine (hinside.insert houtside hneighbours).congr fun key => ?_
      by_cases hkey : key = next
      · subst hkey
        simp [hnext, hpath]
      · simp [hkey]
    obtain ⟨hsettled, hcandidates⟩ := ihrest hbetween ho
    exact ⟨hsettled,
      List.forall_mem_cons.mpr ⟨⟨(hrest.suffix ho).subset hnext, hpath⟩, hcandidates⟩⟩

/-- A search that complains about cycles and misses its goal has no cycle to come to. -/
theorem acyclic_of_reaches (hc : h.Closed) (hp : h.policy = .error)
    (ha : h.reaches q key = .ok false) {met : String} (hmet : ReflTransGen (h.Leads q) key met) :
    ¬ TransGen (h.Leads q) met met := by
  obtain ⟨outcome, ht, heq⟩ := exists_traversal hc q key
  obtain ⟨⟨hit, seen⟩, ho, rfl⟩ := exists_of_map_eq_ok (heq.symm.trans ha)
  have hnone : h.Settled q fun k => k ∈ [key] ∧ k ∉ [key] :=
    ⟨fun _ hk => absurd hk.1 hk.2, fun _ hk => absurd hk.1 hk.2⟩
  obtain ⟨hsettled, hneighbours⟩ := ht.settled hp hnone ho
  -- In the end the start is left as well.
  have hstart : ¬ (key ∈ seen ∧ key ∉ [key]) := fun h => h.2 List.mem_cons_self
  have hall := hsettled.insert hstart hneighbours
  exact hall.acyclic met (hall.of_reflTransGen (.inl rfl) hmet)

/-! ## The three questions under both policies -/

/-- What the answers to one question under the strict and the lenient policy have to do with the
cycles that the question comes to, when it follows `leads` from `start`. -/
structure Detects (h : Hierarchy) (leads : String → String → Prop) (start : String)
    (strict lenient : Except Cycle Bool) : Prop where
  agrees : ∀ answer, strict = .ok answer → lenient = .ok answer
  names_cycle : ∀ c, strict = .error c → ∃ key e, ReflTransGen leads start key ∧
    TransGen leads key key ∧ h.entities.find? key = some e ∧ e.name = c.entity
  acyclic : strict = .ok false → ∀ key, ReflTransGen leads start key → ¬ TransGen leads key key
  answers : (∀ key, ReflTransGen leads start key → ¬ TransGen leads key key) →
    ∃ answer, strict = .ok answer

/-- Under the strict policy a search detects cycles. -/
private theorem detects_reaches (hc : h.Closed) (hp : h.policy = .error) (q : Search) (key : String)
    {lenient : Except Cycle Bool}
    (hagrees : ∀ answer, h.reaches q key = .ok answer → lenient = .ok answer) :
    h.Detects (h.Leads q) key (h.reaches q key) lenient where
  agrees := hagrees
  names_cycle _ ha := names_cycle_of_reaches hc ha
  acyclic ha _ hmet := acyclic_of_reaches hc hp ha hmet
  answers hnone := by
    cases ha : h.reaches q key with
    | ok answer => exact ⟨answer, rfl⟩
    | error c =>
      obtain ⟨met, e, hmet, hcycle, -⟩ := names_cycle_of_reaches hc ha
      exact absurd hcycle (hnone met hmet)

/-- Whether there is a published ancestor is answered alike, or there is a cycle above. -/
theorem detects_hasApiAncestor (hc : h.Closed) (hp : h.policy = .error) (key : String) :
    h.Detects h.DependsOn key (h.hasApiAncestor key)
      ((h.withPolicy .ignore).hasApiAncestor key) := by
  have hagrees : ∀ answer, h.hasApiAncestor key = .ok answer →
      (h.withPolicy .ignore).hasApiAncestor key = .ok answer :=
    agree_of_iff (fun _ => hasApiAncestor_iff hc)
      (fun _ => hasApiAncestor_iff (hc.withPolicy .ignore)) (isOk_map (isOk_walk rfl _ _ _ _))
  have hdetects := detects_reaches hc hp _ key hagrees
  rwa [leads_ancestors] at hdetects

/-- Whether there is a published descendant is answered alike, or there is a cycle below. -/
theorem detects_hasApiDescendant (hc : h.Closed) (hp : h.policy = .error) (key : String) :
    h.Detects (Function.swap h.DependsOn) key (h.hasApiDescendant key)
      ((h.withPolicy .ignore).hasApiDescendant key) := by
  have hagrees : ∀ answer, h.hasApiDescendant key = .ok answer →
      (h.withPolicy .ignore).hasApiDescendant key = .ok answer :=
    agree_of_iff (fun _ => hasApiDescendant_iff hc)
      (fun _ => hasApiDescendant_iff (hc.withPolicy .ignore)) (isOk_map (isOk_walk rfl _ _ _ _))
  have hdetects := detects_reaches hc hp _ key hagrees
  rwa [leads_descendants] at hdetects

/-- Inheritance is answered alike under both policies where the strict one gives an answer. -/
theorem inheritsFrom_agrees (hc : h.Closed) (child ancestor : String) (answer : Bool)
    (ha : h.inheritsFrom child ancestor = .ok answer) :
    (h.withPolicy .ignore).inheritsFrom child ancestor = .ok answer :=
  agree_of_iff (fun _ => inheritsFrom_iff hc) (fun _ => inheritsFrom_iff (hc.withPolicy .ignore))
    (isOk_inheritsFrom rfl child ancestor) answer ha

/-- Whether one entity inherits from another is answered alike, or there is a cycle of the inherits
relation above it. -/
theorem detects_inheritsFrom (hc : h.Closed) (hp : h.policy = .error)
    {child ancestor user source : String} (huser : h.idOf? child = some user)
    (hsource : h.idOf? ancestor = some source) (hne : user ≠ source) :
    h.Detects h.Extends user (h.inheritsFrom child ancestor)
      ((h.withPolicy .ignore).inheritsFrom child ancestor) := by
  have hsearch : h.inheritsFrom child ancestor =
      h.reaches ⟨[.inherits], .towardsSources, fun e => h.idOf? e.name == some source⟩ user := by
    simp only [inheritsFrom, huser, hsource, if_neg hne]
  have hagrees := inheritsFrom_agrees hc child ancestor
  rw [hsearch] at hagrees ⊢
  have hdetects := detects_reaches hc hp _ user hagrees
  rwa [leads_inherits] at hdetects

/-- In a hierarchy that arises under the strict policy each question detects the cycles that it comes
to: it answers as under the lenient policy or names an entity on one of them, a plain no means that
there is none, and if there is none the question is answered. -/
theorem Arises.detects_cycles (ha : h.Arises .error) :
    (∀ key, h.Detects h.DependsOn key (h.hasApiAncestor key)
      ((h.withPolicy .ignore).hasApiAncestor key)) ∧
    (∀ key, h.Detects (Function.swap h.DependsOn) key (h.hasApiDescendant key)
      ((h.withPolicy .ignore).hasApiDescendant key)) ∧
    (∀ child ancestor user source, h.idOf? child = some user → h.idOf? ancestor = some source →
      user ≠ source → h.Detects h.Extends user (h.inheritsFrom child ancestor)
        ((h.withPolicy .ignore).inheritsFrom child ancestor)) := by
  have hc := ha.closed
  have hp := ha.policy_eq
  refine ⟨detects_hasApiAncestor hc hp, detects_hasApiDescendant hc hp, ?_⟩
  intro child ancestor user source huser hsource hne
  exact detects_inheritsFrom hc hp huser hsource hne

/-- A class that extends one of two classes that extend each other, and a class apart. -/
private def entrance : List ClassLike :=
  [{ name := "A", kind := .classKind, parents := ["B"] },
    { name := "B", kind := .classKind, parents := ["C"] },
    { name := "C", kind := .classKind, parents := ["B"] }, { name := "D", kind := .classKind }]

theorem Arises.detects_cycles_entrance :
    (build entrance .error).Arises .error ∧ (build entrance .error).idOf? "A" = some "a" ∧
      (build entrance .error).idOf? "D" = some "d" ∧ "a" ≠ "d" ∧
      ∃ key e, ReflTransGen (build entrance .error).Extends "a" key ∧
        TransGen (build entrance .error).Extends key key ∧
        (build entrance .error).entities.find? key = some e ∧ e.name = "B" := by
  have ha := arises_build entrance .error
  have huser : (build entrance .error).idOf? "A" = some "a" := by decide +kernel
  have hsource : (build entrance .error).idOf? "D" = some "d" := by decide +kernel
  have hne : "a" ≠ "d" := by decide
  have hcycle : (build entrance .error).inheritsFrom "A" "D" = .error ⟨"B"⟩ := by decide +kernel
  have hdetects := (Arises.detects_cycles ha).2.2 "A" "D" "a" "d" huser hsource hne
  exact ⟨ha, huser, hsource, hne, hdetects.names_cycle ⟨"B"⟩ hcycle⟩

end Hierarchy

end VersionBump.Php
