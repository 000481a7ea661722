import Mathlib.Data.List.Perm.Subperm
import VersionBump.Proofs.HierarchySteps

/-!
# Traversals

A walk through a hierarchy is written with a bound on its depth. `Traversal` describes the walk
without a bound, by what happens at each candidate; a derivation of it is a walk that ends. The
bound never shows, because each step down the path visits an entity for the first time.

* `Extends` and `DependsOn` are the relations between keys that queries follow, and `Leads` is the
  one that a search follows.
* `Traversal` is the walk without a bound.
* `exists_traversal` is the statement: from every start there is a traversal, and its outcome is the
  answer of the search.
-/

namespace VersionBump.Php

namespace Hierarchy

variable {h : Hierarchy} {q : Search}

/-! ## Relations between keys -/

/-- The entity under one key inherits from that under another. -/
def Extends (h : Hierarchy) (user source : String) : Prop :=
  ⟨user, .inherits, source⟩ ∈ h.edges

/-- The entity under one key inherits from that under another, implements or uses it. -/
def DependsOn (h : Hierarchy) (user source : String) : Prop :=
  ∃ relation, ⟨user, relation, source⟩ ∈ h.edges

/-- A search goes on from one key to the other. -/
def Leads (h : Hierarchy) (q : Search) (key next : String) : Prop :=
  next ∈ h.neighbours q.allowed q.direction key

/-- What lies next to an entity on the side of its sources. -/
theorem mem_neighbours_towardsSources {allowed : List Relation} {key next : String} :
    next ∈ h.neighbours allowed .towardsSources key ↔
      ∃ relation ∈ allowed, ⟨key, relation, next⟩ ∈ h.edges := by
  simp only [neighbours, List.mem_filterMap, List.mem_filter, decide_eq_true_eq, Edge.next?]
  constructor
  · rintro ⟨⟨user, relation, source⟩, ⟨hedge, hallowed⟩, hnext⟩
    split at hnext
    case isTrue huser =>
      cases hnext
      subst huser
      exact ⟨relation, hallowed, hedge⟩
    case isFalse => exact nomatch hnext
  · rintro ⟨relation, hallowed, hedge⟩
    exact ⟨_, ⟨hedge, hallowed⟩, if_pos rfl⟩

/-- What lies next to an entity on the side of its users. -/
theorem mem_neighbours_towardsUsers {allowed : List Relation} {key next : String} :
    next ∈ h.neighbours allowed .towardsUsers key ↔
      ∃ relation ∈ allowed, ⟨next, relation, key⟩ ∈ h.edges := by
  simp only [neighbours, List.mem_filterMap, List.mem_filter, decide_eq_true_eq, Edge.next?]
  constructor
  · rintro ⟨⟨user, relation, source⟩, ⟨hedge, hallowed⟩, hnext⟩
    split at hnext
    case isTrue hsource =>
      cases hnext
      subst hsource
      exact ⟨relation, hallowed, hedge⟩
    case isFalse => exact nomatch hnext
  · rintro ⟨relation, hallowed, hedge⟩
    exact ⟨_, ⟨hedge, hallowed⟩, if_pos rfl⟩

private theorem mem_allRelations (relation : Relation) : relation ∈ allRelations := by
  cases relation <;> decide

/-- The search for a published ancestor follows all relations to their sources. -/
theorem leads_ancestors (h : Hierarchy) (goal : Entity → Bool) :
    h.Leads ⟨allRelations, .towardsSources, goal⟩ = h.DependsOn := by
  ext key next
  rw [Leads, mem_neighbours_towardsSources]
  exact exists_congr fun relation => and_iff_right (mem_allRelations relation)

/-- The search for a published descendant follows all relations to their users. -/
theorem leads_descendants (h : Hierarchy) (goal : Entity → Bool) :
    h.Leads ⟨allRelations, .towardsUsers, goal⟩ = Function.swap h.DependsOn := by
  ext key next
  rw [Leads, mem_neighbours_towardsUsers]
  exact exists_congr fun relation => and_iff_right (mem_allRelations relation)

/-- The search for an ancestor to inherit from follows the inherits relation to its sources. -/
theorem leads_inherits (h : Hierarchy) (goal : Entity → Bool) :
    h.Leads ⟨[.inherits], .towardsSources, goal⟩ = h.Extends := by
  ext key next
  rw [Leads, mem_neighbours_towardsSources]
  simp only [List.mem_singleton, exists_eq_left, Extends]

/-- A search in a closed hierarchy leads from entities to entities. -/
theorem Closed.contains_of_leads (hc : h.Closed) {key next : String} (hl : h.Leads q key next) :
    h.entities.contains key = true ∧ h.entities.contains next = true := by
  obtain ⟨allowed, direction, goal⟩ := q
  cases direction with
  | towardsSources =>
    obtain ⟨relation, -, hedge⟩ := mem_neighbours_towardsSources.mp hl
    exact ⟨hc.user_mem _ hedge, hc.source_mem _ hedge⟩
  | towardsUsers =>
    obtain ⟨relation, -, hedge⟩ := mem_neighbours_towardsUsers.mp hl
    exact ⟨hc.source_mem _ hedge, hc.user_mem _ hedge⟩

/-! ## Walks without a bound -/

/-- What becomes of the candidates next to the last entity of a path when so much has been visited.
The rules are tried in this order, and each looks at the first candidate. -/
inductive Traversal (h : Hierarchy) (q : Search) :
    List String → List String → List String → Except Cycle (Bool × List String) → Prop
  | done {path visited : List String} : Traversal h q path [] visited (.ok (false, visited))
  | ignored {path rest visited : List String} {next : String}
      {outcome : Except Cycle (Bool × List String)} (hmet : next ∈ path) (hp : h.policy = .ignore)
      (hrest : Traversal h q path rest visited outcome) :
      Traversal h q path (next :: rest) visited outcome
  | refused {path rest visited : List String} {next : String} (hmet : next ∈ path)
      (hp : h.policy = .error) :
      Traversal h q path (next :: rest) visited
        (.error ⟨((h.entities.find? next).map (·.name)).getD next⟩)
  | known {path rest visited : List String} {next : String}
      {outcome : Except Cycle (Bool × List String)} (hpath : next ∉ path) (hmet : next ∈ visited)
      (hrest : Traversal h q path rest visited outcome) :
      Traversal h q path (next :: rest) visited outcome
  | hit {path rest visited : List String} {next : String} (hpath : next ∉ path)
      (hnew : next ∉ visited) (hgoal : q.hits h next = true) :
      Traversal h q path (next :: rest) visited (.ok (true, next :: visited))
  | found {path rest visited seen : List String} {next : String} (hpath : next ∉ path)
      (hnew : next ∉ visited) (hgoal : q.hits h next = false)
      (hinner : Traversal h q (next :: path) (h.neighbours q.allowed q.direction next)
        (next :: visited) (.ok (true, seen))) :
      Traversal h q path (next :: rest) visited (.ok (true, seen))
  | stopped {path rest visited : List String} {next : String} {c : Cycle} (hpath : next ∉ path)
      (hnew : next ∉ visited) (hgoal : q.hits h next = false)
      (hinner : Traversal h q (next :: path) (h.neighbours q.allowed q.direction next)
        (next :: visited) (.error c)) :
      Traversal h q path (next :: rest) visited (.error c)
  | passed {path rest visited seen : List String} {next : String}
      {outcome : Except Cycle (Bool × List String)} (hpath : next ∉ path)
      (hnew : next ∉ visited) (hgoal : q.hits h next = false)
      (hinner : Traversal h q (next :: path) (h.neighbours q.allowed q.direction next)
        (next :: visited) (.ok (false, seen)))
      (hrest : Traversal h q path rest seen outcome) :
      Traversal h q path (next :: rest) visited outcome

variable {path candidates visited seen : List String} {outcome : Except Cycle (Bool × List String)}

/-- What has been visited stays visited. -/
theorem Traversal.suffix (ht : h.Traversal q path candidates visited outcome) {hit : Bool}
    (ho : outcome = .ok (hit, seen)) : visited <:+ seen := by
  induction ht generalizing hit seen with
  | done =>
    cases ho
    exact List.suffix_rfl
  | ignored _ _ _ ih => exact ih ho
  | refused => exact nomatch ho
  | known _ _ _ ih => exact ih ho
  | hit =>
    cases ho
    exact List.suffix_cons _ _
  | found _ _ _ _ ih =>
    cases ho
    exact (List.suffix_cons _ _).trans (ih rfl)
  | stopped => exact nomatch ho
  | passed _ _ _ _ _ ih ihrest => exact (List.suffix_cons _ _).trans ((ih rfl).trans (ihrest ho))

/-- Entities, each of them once. -/
private structure Distinct (h : Hierarchy) (keys : List String) : Prop where
  nodup : keys.Nodup
  contains : ∀ key ∈ keys, h.entities.contains key = true

private theorem Distinct.cons {keys : List String} (hd : h.Distinct keys) {key : String}
    (hnew : key ∉ keys) (hkey : h.entities.contains key = true) : h.Distinct (key :: keys) :=
  ⟨hd.nodup.cons hnew, List.forall_mem_cons.mpr ⟨hkey, hd.contains⟩⟩

/-- There are no more different entities than there are entities. -/
private theorem Distinct.length_le {keys : List String} (hd : h.Distinct keys) :
    keys.length ≤ h.size := by
  have hsub : keys ⊆ h.entities.keys := fun key hkey =>
    h.entities.mem_keys_iff.mpr (hd.contains key hkey)
  have hle := (hd.nodup.subperm hsub).length_le
  rwa [KeyMap.keys, List.length_map] at hle

/-- A traversal visits entities, each of them once. -/
private theorem Traversal.distinct (hc : h.Closed)
    (ht : h.Traversal q path candidates visited outcome)
    (hcandidates : ∀ key ∈ candidates, h.entities.contains key = true)
    (hvisited : h.Distinct visited) {hit : Bool} (ho : outcome = .ok (hit, seen)) :
    h.Distinct seen := by
  have hneighbours : ∀ key, ∀ next ∈ h.neighbours q.allowed q.direction key,
      h.entities.contains next = true :=
    fun key next hnext => (hc.contains_of_leads hnext).2
  induction ht generalizing hit seen with
  | done =>
    cases ho
    exact hvisited
  | ignored _ _ _ ih => exact ih (List.forall_mem_cons.mp hcandidates).2 hvisited ho
  | refused => exact nomatch ho
  | known _ _ _ ih => exact ih (List.forall_mem_cons.mp hcandidates).2 hvisited ho
  | hit _ hnew =>
    cases ho
    exact hvisited.cons hnew (List.forall_mem_cons.mp hcandidates).1
  | found _ hnew _ _ ih =>
    cases ho
    exact ih (hneighbours _) (hvisited.cons hnew (List.forall_mem_cons.mp hcandidates).1) rfl
  | stopped => exact nomatch ho
  | passed _ hnew _ _ _ ih ihrest =>
    obtain ⟨hnext, hrest⟩ := List.forall_mem_cons.mp hcandidates
    exact ihrest hrest (ih (hneighbours _) (hvisited.cons hnew hnext) rfl) ho

/-- A walk that has depth left for all entities not yet visited is a traversal. -/
private theorem traversal_walk (hc : h.Closed) {depth : Nat} (head : String) (path : List String)
    (hvisited : h.Distinct visited) (hdepth : h.size < depth + visited.length) :
    h.Traversal q (head :: path) (h.neighbours q.allowed q.direction head) visited
      (h.walk q depth (head :: path) visited) := by
  induction depth generalizing head path visited with
  | zero =>
    have hle := hvisited.length_le
    omega
  | succ depth ih =>
    rw [walk, List.head?_cons, Option.map_some, Option.getD_some]
    have hneighbours : ∀ next ∈ h.neighbours q.allowed q.direction head,
        h.entities.contains next = true :=
      fun next hnext => (hc.contains_of_leads hnext).2
    -- The candidates are tried one after the other, with more and more visited.
    generalize h.neighbours q.allowed q.direction head = candidates at hneighbours ⊢
    induction candidates generalizing visited with
    | nil => exact .done
    | cons next rest ihrest =>
      obtain ⟨hnext, hrest⟩ := List.forall_mem_cons.mp hneighbours
      rw [firstHit]
      by_cases hpath : next ∈ head :: path
      · rw [if_pos hpath]
        cases hp : h.policy with
        | ignore =>
          have htail := ihrest hvisited hdepth hrest
          rw [hp] at htail
          exact .ignored hpath hp htail
        | error => exact .refused hpath hp
      · rw [if_neg hpath]
        by_cases hnew : next ∈ visited
        · rw [if_pos hnew]
          exact .known hpath hnew (ihrest hvisited hdepth hrest)
        · rw [if_neg hnew]
          cases hgoal : q.hits h next with
          | true => exact .hit hpath hnew hgoal
          | false =>
            have hdeeper : h.Distinct (next :: visited) := hvisited.cons hnew hnext
            have hinner := ih next (head :: path) hdeeper (by rw [List.length_cons]; omega)
            rw [if_neg Bool.false_ne_true]
            cases hwalk : h.walk q depth (next :: head :: path) (next :: visited) with
            | error c =>
              rw [hwalk] at hinner
              exact .stopped hpath hnew hgoal hinner
            | ok result =>
              obtain ⟨hit, seen⟩ := result
              rw [hwalk] at hinner
              cases hit with
              | true => exact .found hpath hnew hgoal hinner
              | false =>
                have hgrown := (hinner.suffix rfl).length_le
                rw [List.length_cons] at hgrown
                have hseen := hinner.distinct hc
                  (fun key hkey => (hc.contains_of_leads hkey).2) hdeeper rfl
                exact .passed hpath hnew hgoal hinner (ihrest hseen (by omega) hrest)

/-- From every start there is a traversal, and the search answers with its outcome. -/
theorem exists_traversal (hc : h.Closed) (q : Search) (key : String) :
    ∃ outcome, h.Traversal q [key] (h.neighbours q.allowed q.direction key) [key] outcome ∧
      h.reaches q key = outcome.map (·.1) := by
  refine ⟨h.walk q (h.size + 1) [key] [key], ?_, rfl⟩
  by_cases hkey : h.entities.contains key = true
  · have hstart : h.Distinct [key] := ⟨List.nodup_singleton key, by simpa using hkey⟩
    exact traversal_walk hc key [] hstart (by rw [List.length_singleton]; omega)
  · -- Nothing lies next to a key without an entity.
    have hnone : h.neighbours q.allowed q.direction key = [] :=
      List.eq_nil_iff_forall_not_mem.mpr fun next hnext => hkey (hc.contains_of_leads hnext).1
    rw [walk, List.head?_cons, Option.map_some, Option.getD_some, hnone]
    exact .done

end Hierarchy

end VersionBump.Php
