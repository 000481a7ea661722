import VersionBump.Proofs.IgnoredCycles
import VersionBump.Proofs.Traversals

/-!
# Reachable entities

A search that has an answer tells exactly whether an entity other than its start meets the goal and
can be reached. That holds under either policy, since a walk leaves nothing out: what it skips lies
on its path, or has been visited before.

* `Traversal.exists_hit` and `Traversal.missed` say what a traversal with and without a hit knows.
* `reaches_iff` is the statement for one search, and `hasApiAncestor_iff`, `hasApiDescendant_iff`
  and `inheritsFrom_iff` are those for the three questions.
* `Arises.answers_tell_reachability` adds that there always is an answer if cycles are ignored.
-/

open Relation (TransGen ReflTransGen)

namespace VersionBump.Php

namespace Hierarchy

variable {h : Hierarchy} {q : Search} {path candidates visited seen : List String}
  {outcome : Except Cycle (Bool × List String)} {key : String} {answer : Bool}

/-! ## What a traversal finds -/

/-- A traversal that ends with a hit has reached an entity that meets the goal and that had not been
visited. -/
theorem Traversal.exists_hit (ht : h.Traversal q path candidates visited outcome)
    (ho : outcome = .ok (true, seen)) :
    ∃ next ∈ candidates, ∃ key, ReflTransGen (h.Leads q) next key ∧ key ∉ visited ∧
      q.hits h key = true := by
  induction ht generalizing seen with
  | done => exact nomatch ho
  | ignored _ _ _ ih =>
    obtain ⟨next, hnext, hkey⟩ := ih ho
    exact ⟨next, List.mem_cons_of_mem _ hnext, hkey⟩
  | refused => exact nomatch ho
  | known _ _ _ ih =>
    obtain ⟨next, hnext, hkey⟩ := ih ho
    exact ⟨next, List.mem_cons_of_mem _ hnext, hkey⟩
  | @hit _ _ _ next _ hnew hgoal => exact ⟨next, List.mem_cons_self, next, .refl, hnew, hgoal⟩
  | @found _ _ _ _ next _ _ _ _ ih =>
    -- The hit lies behind the first candidate.
    obtain ⟨further, hfurther, key, hleads, hkey, hgoal⟩ := ih rfl
    exact ⟨next, List.mem_cons_self, key, .head hfurther hleads,
      fun hmem => hkey (List.mem_cons_of_mem _ hmem), hgoal⟩
  | stopped => exact nomatch ho
  | passed _ _ _ hinner _ _ ihrest =>
    obtain ⟨next, hnext, key, hleads, hkey, hgoal⟩ := ihrest ho
    exact ⟨next, List.mem_cons_of_mem _ hnext, key, hleads,
      fun hmem => hkey ((hinner.suffix rfl).subset (List.mem_cons_of_mem _ hmem)), hgoal⟩

/-- A traversal that ends without a hit has visited all candidates. What it has visited anew does
not meet the goal and leads only to what has been visited. -/
theorem Traversal.missed (ht : h.Traversal q path candidates visited outcome)
    (hpath : path ⊆ visited) (ho : outcome = .ok (false, seen)) :
    candidates ⊆ seen ∧ ∀ key ∈ seen, key ∉ visited →
      q.hits h key = false ∧ ∀ next, h.Leads q key next → next ∈ seen := by
  induction ht generalizing seen with
  | done =>
    cases ho
    exact ⟨List.nil_subset _, fun key hkey hnot => absurd hkey hnot⟩
  | ignored hmet _ hrest ih =>
    obtain ⟨hcandidates, hkeys⟩ := ih hpath ho
    have hnext := (hrest.suffix ho).subset (hpath hmet)
    exact ⟨List.cons_subset.mpr ⟨hnext, hcandidates⟩, hkeys⟩
  | refused => exact nomatch ho
  | known _ hmet hrest ih =>
    obtain ⟨hcandidates, hkeys⟩ := ih hpath ho
    have hnext := (hrest.suffix ho).subset hmet
    exact ⟨List.cons_subset.mpr ⟨hnext, hcandidates⟩, hkeys⟩
  | hit => exact nomatch ho
  | found => exact nomatch ho
  | stopped => exact nomatch ho
  | @passed path rest visited between next _ _ _ hgoal hinner hrest ih ihrest =>
    have hdeeper : next :: path ⊆ next :: visited := List.cons_subset_cons next hpath
    have hbetween := (hinner.suffix rfl).subset
    have hseen := (hrest.suffix ho).subset
    obtain ⟨hneighbours, hinside⟩ := ih hdeeper rfl
    obtain ⟨hcandidates, hkeys⟩ := ihrest
      (fun key hkey => hbetween (List.mem_cons_of_mem _ (hpath hkey))) ho
    refine ⟨List.cons_subset.mpr ⟨hseen (hbetween List.mem_cons_self), hcandidates⟩,
      fun key hkey hnot => ?_⟩
    -- An entity is visited before the first candidate has been left, or among the others.
    by_cases hearly : key ∈ between
    · by_cases hfirst : key = next
      · subst hfirst
        exact ⟨hgoal, fun further hfurther => hseen (hneighbours hfurther)⟩
      · obtain ⟨hmiss, hleads⟩ := hinside key hearly (by simp [hfirst, hnot])
        exact ⟨hmiss, fun further hfurther => hseen (hleads further hfurther)⟩
    · exact hkeys key hkey hearly

/-- What leads out of a set only into it is not left by a path. -/
theorem mem_of_transGen {keys : List String} {key other : String}
    (hclosed : ∀ k ∈ key :: keys, ∀ next, h.Leads q k next → next ∈ keys)
    (hleads : TransGen (h.Leads q) key other) : other ∈ keys := by
  induction hleads with
  | single hnext => exact hclosed key List.mem_cons_self _ hnext
  | tail _ hnext ih => exact hclosed _ (List.mem_cons_of_mem key ih) _ hnext

/-- A search that has an answer tells whether an entity other than its start meets the goal and can
be reached. -/
theorem reaches_iff (hc : h.Closed) (ha : h.reaches q key = .ok answer) :
    answer = true ↔ ∃ other, other ≠ key ∧ TransGen (h.Leads q) key other ∧
      q.hits h other = true := by
  obtain ⟨outcome, ht, heq⟩ := exists_traversal hc q key
  obtain ⟨⟨hit, seen⟩, ho, rfl⟩ := exists_of_map_eq_ok (heq.symm.trans ha)
  cases hit with
  | true =>
    refine iff_of_true rfl ?_
    obtain ⟨next, hnext, other, hleads, hother, hgoal⟩ := ht.exists_hit ho
    exact ⟨other, fun heq => hother (List.mem_singleton.mpr heq), .head' hnext hleads, hgoal⟩
  | false =>
    refine iff_of_false Bool.false_ne_true ?_
    rintro ⟨other, hother, hleads, hgoal⟩
    obtain ⟨hneighbours, hkeys⟩ := ht.missed (List.Subset.refl _) ho
    -- Nothing leads out of what has been visited, and what lies next to the start is part of it.
    have hclosed : ∀ k ∈ key :: seen, ∀ next, h.Leads q k next → next ∈ seen := by
      intro k hk next hnext
      by_cases hstart : k = key
      · subst hstart
        exact hneighbours hnext
      · have hseen := (List.mem_cons.mp hk).resolve_left hstart
        exact (hkeys k hseen (by simpa using hstart)).2 next hnext
    have hmiss := (hkeys other (mem_of_transGen hclosed hleads) (by simpa using hother)).1
    rw [hmiss] at hgoal
    exact Bool.false_ne_true hgoal

/-! ## The three questions -/

/-- Whether the entity under a key is published. -/
def isPublished (h : Hierarchy) (key : String) : Bool := (h.entities.find? key).any (·.isApi)

/-- An answer about ancestors tells whether one of them is published. -/
theorem hasApiAncestor_iff (hc : h.Closed) (ha : h.hasApiAncestor key = .ok answer) :
    answer = true ↔ ∃ other, other ≠ key ∧ TransGen h.DependsOn key other ∧
      h.isPublished other = true := by
  have hreach := reaches_iff hc ha
  rw [leads_ancestors] at hreach
  exact hreach

/-- An answer about descendants tells whether one of them is published. -/
theorem hasApiDescendant_iff (hc : h.Closed) (ha : h.hasApiDescendant key = .ok answer) :
    answer = true ↔ ∃ other, other ≠ key ∧ TransGen h.DependsOn other key ∧
      h.isPublished other = true := by
  have hreach := reaches_iff hc ha
  simp only [leads_descendants, Relation.transGen_swap] at hreach
  exact hreach

/-- In a closed hierarchy the name of an entity denotes it. -/
theorem Closed.idOf?_name (hc : h.Closed) {e : Entity} (he : h.entities.find? key = some e) :
    h.idOf? e.name = some key := by
  have hkey : Name.key e.name = key := hc.key_name key e he
  have hcontains : h.entities.contains key = true := by rw [KeyMap.contains, he, Option.isSome_some]
  rw [idOf?_of_contains (hkey.symm ▸ hcontains), hkey]

/-- The search for an ancestor is hit by the ancestor and by nothing else. -/
private theorem hits_ancestor_iff (hc : h.Closed) {ancestor other : String}
    (hancestor : h.entities.contains ancestor = true) :
    Search.hits ⟨[.inherits], .towardsSources, fun e => h.idOf? e.name == some ancestor⟩ h other =
      true ↔ other = ancestor := by
  simp only [Search.hits, Option.any_eq_true, beq_iff_eq]
  constructor
  · rintro ⟨e, he, hid⟩
    rw [hc.idOf?_name he] at hid
    exact Option.some.inj hid
  · rintro rfl
    obtain ⟨e, he⟩ := Option.isSome_iff_exists.mp hancestor
    exact ⟨e, he, hc.idOf?_name he⟩

/-- An answer about inheritance tells whether both names are known and the one entity is the other or
extends it, directly or not. -/
theorem inheritsFrom_iff (hc : h.Closed) {child ancestor : String}
    (ha : h.inheritsFrom child ancestor = .ok answer) :
    answer = true ↔ ∃ user source, h.idOf? child = some user ∧ h.idOf? ancestor = some source ∧
      (user = source ∨ TransGen h.Extends user source) := by
  unfold inheritsFrom at ha
  split at ha
  case h_1 user source huser hsource =>
    split at ha
    case isTrue heq =>
      cases ha
      exact iff_of_true rfl ⟨user, source, huser, hsource, .inl heq⟩
    case isFalse hne =>
      have hreach := reaches_iff hc ha
      simp only [leads_inherits, hits_ancestor_iff hc (contains_of_idOf? hsource)] at hreach
      refine hreach.trans ⟨?_, ?_⟩
      · rintro ⟨other, -, hextends, rfl⟩
        exact ⟨user, other, huser, hsource, .inr hextends⟩
      · rintro ⟨user', source', huser', hsource', hextends⟩
        obtain rfl := Option.some.inj (huser.symm.trans huser')
        obtain rfl := Option.some.inj (hsource.symm.trans hsource')
        exact ⟨source, fun heq => hne heq.symm, hextends.resolve_left hne, rfl⟩
  case h_2 hunknown =>
    cases ha
    refine iff_of_false Bool.false_ne_true ?_
    rintro ⟨user, source, huser, hsource, -⟩
    exact hunknown user source huser hsource

/-- Answers that tell the same are the same, if there is an answer. -/
theorem agree_of_iff {strict lenient : Except Cycle Bool} {p : Prop}
    (hstrict : ∀ answer, strict = .ok answer → (answer = true ↔ p))
    (hlenient : ∀ answer, lenient = .ok answer → (answer = true ↔ p)) (hok : lenient.isOk)
    (answer : Bool) (ha : strict = .ok answer) : lenient = .ok answer := by
  obtain ⟨other, hother⟩ := exists_eq_ok_of_isOk hok
  have hsame : other = answer :=
    Bool.eq_iff_iff.mpr ((hlenient other hother).trans (hstrict answer ha).symm)
  rw [hother, hsame]

/-- If cycles are ignored, each question about a hierarchy that arises has an answer, and the answer
tells what can be reached. Every walk ends, whatever cycles there are. -/
theorem Arises.answers_tell_reachability (ha : h.Arises .ignore) :
    (∀ key, ∃ answer, h.hasApiAncestor key = .ok answer ∧
      (answer = true ↔ ∃ other, other ≠ key ∧ TransGen h.DependsOn key other ∧
        h.isPublished other = true)) ∧
    (∀ key, ∃ answer, h.hasApiDescendant key = .ok answer ∧
      (answer = true ↔ ∃ other, other ≠ key ∧ TransGen h.DependsOn other key ∧
        h.isPublished other = true)) ∧
    (∀ child ancestor, ∃ answer, h.inheritsFrom child ancestor = .ok answer ∧
      (answer = true ↔ ∃ user source, h.idOf? child = some user ∧
        h.idOf? ancestor = some source ∧ (user = source ∨ TransGen h.Extends user source))) ∧
    (∀ q key, ∃ outcome,
      h.Traversal q [key] (h.neighbours q.allowed q.direction key) [key] outcome ∧
        h.reaches q key = outcome.map (·.1)) := by
  have hc := ha.closed
  have hp := ha.policy_eq
  refine ⟨fun key => ?_, fun key => ?_, fun child ancestor => ?_, exists_traversal hc⟩
  · obtain ⟨answer, hanswer⟩ := exists_eq_ok_of_isOk (isOk_map (isOk_walk hp _ _ [key] [key]))
    exact ⟨answer, hanswer, hasApiAncestor_iff hc hanswer⟩
  · obtain ⟨answer, hanswer⟩ := exists_eq_ok_of_isOk (isOk_map (isOk_walk hp _ _ [key] [key]))
    exact ⟨answer, hanswer, hasApiDescendant_iff hc hanswer⟩
  · obtain ⟨answer, hanswer⟩ := exists_eq_ok_of_isOk (isOk_inheritsFrom hp child ancestor)
    exact ⟨answer, hanswer, inheritsFrom_iff hc hanswer⟩

/-- Two classes that extend each other, one of which implements a published interface. -/
private def entangled : List ClassLike :=
  [{ name := "A", kind := .classKind, parents := ["B"], traits := ["T"] },
    { name := "B", kind := .classKind, parents := ["A"], interfaces := ["I"] },
    { name := "I", kind := .interfaceKind, isApi := true }]

theorem Arises.answers_tell_reachability_entangled :
    (build entangled .ignore).Arises .ignore ∧
      (∃ other, other ≠ "a" ∧ TransGen (build entangled .ignore).DependsOn "a" other ∧
        (build entangled .ignore).isPublished other = true) ∧
      ¬ ∃ other, other ≠ "i" ∧ TransGen (build entangled .ignore).DependsOn other "i" ∧
        (build entangled .ignore).isPublished other = true := by
  have ha := arises_build entangled .ignore
  obtain ⟨hancestors, hdescendants, -⟩ := Arises.answers_tell_reachability ha
  obtain ⟨above, habove, hfound⟩ := hancestors "a"
  obtain ⟨below, hbelow, hmissed⟩ := hdescendants "i"
  have htrue : (build entangled .ignore).hasApiAncestor "a" = .ok true := by decide +kernel
  have hfalse : (build entangled .ignore).hasApiDescendant "i" = .ok false := by decide +kernel
  obtain rfl := Except.ok.inj (habove.symm.trans htrue)
  obtain rfl := Except.ok.inj (hbelow.symm.trans hfalse)
  exact ⟨ha, hfound.mp rfl, fun h => Bool.false_ne_true (hmissed.mpr h)⟩

end Hierarchy

end VersionBump.Php
