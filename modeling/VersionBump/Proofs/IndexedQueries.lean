import VersionBump.Proofs.NodeIndices
import VersionBump.Proofs.RelatedEntities

/-!
# Queries by place

A query on a hierarchy that is kept in places starts at a place and goes from place to place. It
meets the same entities in the same order as the query that goes from key to key, so both answer
alike.

* `Hierarchy.Indexed.Represents.related_eq` lists the same related entities.
* `Hierarchy.Alike` relates the outcomes of two walks, and `Hierarchy.Indexed.Represents.walk` is
  the simulation. `Hierarchy.Indexed.Represents.reaches_eq` is the answer from a place.
* `Hierarchy.Indexed.Represents.answers_eq` puts the queries together, and
  `Hierarchy.Indexed.build_answers_eq` says so of what is built from declarations.
* `Hierarchy.Indexed.Arises.lists_links` says in terms of places what is listed as related, for
  everything that arises.
-/

namespace VersionBump.Php

namespace Hierarchy

/-- The place that a link leads to from `place`, if it touches `place` on the other side. -/
def Link.next? (direction : Direction) (place : Nat) (l : Link) : Option Nat :=
  match direction with
  | .towardsSources => if l.user = place then some l.source else none
  | .towardsUsers => if l.source = place then some l.user else none

namespace Indexed

/-! ## Queries -/

/-- The number of entities. -/
def size (g : Indexed) : Nat := g.nodes.length

/-- The places next to a place through the allowed relations, the newest relation first. -/
def neighbours (g : Indexed) (allowed : List Relation) (direction : Direction) (i : Nat) :
    List Nat :=
  (g.links.filter (·.relation ∈ allowed)).filterMap (·.next? direction i)

/-- The entities related to the one at a place, in the order of their names. -/
def related (g : Indexed) (relation : Relation) (direction : Direction) (i : Nat) : List Entity :=
  ((g.neighbours [relation] direction i).filterMap (g.nodes[·]?)).mergeSort
    fun a b => compare a.name b.name != .gt

/-- Whether the entity at a place meets the goal of a search. -/
def hits (g : Indexed) (q : Search) (i : Nat) : Bool := (g.nodes[i]?).any q.goal

/-- Walks on from the last place of `path`, which lists the places backwards. The answer tells
whether the goal was met and which places have been visited. -/
def walk (g : Indexed) (q : Search) : Nat → List Nat → List Nat → Except Cycle (Bool × List Nat)
  | 0, _, visited => .ok (false, visited)
  | depth + 1, path, visited =>
    let candidates := (path.head?.map (g.neighbours q.allowed q.direction)).getD []
    firstHit (fun visited next =>
      if next ∈ path then
        match g.policy with
        | .ignore => .ok (false, visited)
        | .error => .error ⟨((g.nodes[next]?).map (·.name)).getD ""⟩
      else if next ∈ visited then .ok (false, visited)
      else if g.hits q next then .ok (true, next :: visited)
      else g.walk q depth (next :: path) (next :: visited)) candidates visited

/-- Whether a search that starts at a place meets its goal. -/
def reaches (g : Indexed) (q : Search) (i : Nat) : Except Cycle Bool :=
  (g.walk q (g.size + 1) [i] [i]).map (·.1)

/-- Whether the entity at a place depends, directly or not, on a published one. -/
def hasApiAncestor (g : Indexed) (i : Nat) : Except Cycle Bool :=
  g.reaches ⟨allRelations, .towardsSources, (·.isApi)⟩ i

/-- Whether a published entity depends, directly or not, on the one at a place. -/
def hasApiDescendant (g : Indexed) (i : Nat) : Except Cycle Bool :=
  g.reaches ⟨allRelations, .towardsUsers, (·.isApi)⟩ i

/-- Whether `child` is `ancestor` or extends it, directly or not. Unknown names inherit nothing. -/
def inheritsFrom (g : Indexed) (child ancestor : String) : Except Cycle Bool :=
  match g.idOf? child, g.idOf? ancestor with
  | some child, some ancestor =>
    if child = ancestor then .ok true
    else g.reaches ⟨[.inherits], .towardsSources, fun e => g.idOf? e.name == some ancestor⟩ child
  | _, _ => .ok false

variable {g : Indexed} {h : Hierarchy} {policy : CyclePolicy} {q : Search} {i : Nat} {key : String}

/-! ## What lies next to a place -/

/-- A link leads to the place of the key that its edge leads to. -/
theorem Coherent.next? (hg : g.Coherent) (direction : Direction) (hk : g.Keyed i key) {l : Link}
    {edge : Edge} (hl : g.Linked l edge) :
    Option.Rel g.Keyed (l.next? direction i) (edge.next? direction key) := by
  cases direction with
  | towardsSources =>
    rw [Link.next?, Edge.next?]
    by_cases huser : l.user = i
    · rw [if_pos huser, if_pos ((hg.place_eq_iff hl.user hk).mp huser)]
      exact .some hl.source
    · rw [if_neg huser, if_neg ((hg.place_eq_iff hl.user hk).not.mp huser)]
      exact .none
  | towardsUsers =>
    rw [Link.next?, Edge.next?]
    by_cases hsource : l.source = i
    · rw [if_pos hsource, if_pos ((hg.place_eq_iff hl.source hk).mp hsource)]
      exact .some hl.user
    · rw [if_neg hsource, if_neg ((hg.place_eq_iff hl.source hk).not.mp hsource)]
      exact .none

/-- Next to a place lie the places of what lies next to its key, in the same order. -/
theorem Represents.neighbours (hr : g.Represents h) (allowed : List Relation)
    (direction : Direction) (hk : g.Keyed i key) :
    List.Forall₂ g.Keyed (g.neighbours allowed direction i)
      (h.neighbours allowed direction key) := by
  refine List.rel_filterMap (fun l edge hl => hr.coherent.next? direction hk hl)
    (List.rel_filter (fun l edge hl => ?_) hr.links)
  show decide (l.relation ∈ allowed) = true ↔ decide (edge.relation ∈ allowed) = true
  rw [hl.relation]

/-- The same entities are listed as related, in the same order. -/
theorem Represents.related_eq (hr : g.Represents h) (relation : Relation) (direction : Direction)
    (hk : g.Keyed i key) : g.related relation direction i = h.related relation direction key := by
  have hentities : List.Forall₂ Eq
      ((g.neighbours [relation] direction i).filterMap (g.nodes[·]?))
      ((h.neighbours [relation] direction key).filterMap h.entities.find?) := by
    refine List.rel_filterMap (fun j k hj => ?_) (hr.neighbours [relation] direction hk)
    rw [hr.node_eq hj]
    cases h.entities.find? k with
    | none => exact .none
    | some e => exact .some rfl
  rw [List.forall₂_eq_eq_eq] at hentities
  rw [related, Hierarchy.related, hentities]

/-- The keys of the entities are distinct. -/
theorem Coherent.nodup_keys (hg : g.Coherent) : (g.nodes.map fun e => Name.key e.name).Nodup := by
  refine List.pairwise_map.mpr (List.pairwise_iff_getElem.mpr fun i j hi hj hlt heq => ?_)
  have hkeyed : ∀ {k : Nat} (hk : k < g.nodes.length), g.Keyed k (Name.key g.nodes[k].name) :=
    fun hk => keyed_iff.mpr ⟨_, List.getElem?_eq_getElem hk, rfl⟩
  exact absurd ((hg.place_eq_iff (hkeyed hi) (hkeyed hj)).mpr heq) (Nat.ne_of_lt hlt)

/-- There are as many places as entities. -/
theorem Represents.size_eq (hr : g.Represents h) : g.size = h.size := by
  have hkeys : h.entities.keys.Nodup := h.entities.nodup_keys
  have hperm : (g.nodes.map fun e => Name.key e.name).Perm h.entities.keys := by
    refine (List.perm_ext_iff_of_nodup hr.coherent.nodup_keys hkeys).mpr fun key => ?_
    rw [KeyMap.mem_keys_iff, hr.contains_iff, List.mem_iff_getElem?]
    simp only [List.getElem?_map, Keyed]
  have hlength := hperm.length_eq
  rwa [KeyMap.keys, List.length_map, List.length_map] at hlength

end Indexed

/-! ## Walks -/

/-- Two walks come to the same end, and what they carry along is related. -/
inductive Alike {σ τ ε : Type} (R : σ → τ → Prop) :
    Except ε (Bool × σ) → Except ε (Bool × τ) → Prop
  | ok (hit : Bool) {s : σ} {t : τ} (hst : R s t) : Alike R (.ok (hit, s)) (.ok (hit, t))
  | error (e : ε) : Alike R (.error e) (.error e)

section Alike

variable {σ τ κ μ ε : Type} {R : σ → τ → Prop}

/-- Outcomes that are alike give the same answer. -/
theorem Alike.map_eq {a : Except ε (Bool × σ)} {b : Except ε (Bool × τ)} (hab : Alike R a b) :
    a.map (·.1) = b.map (·.1) := by
  cases hab <;> rfl

/-- Trying related candidates by alike attempts comes to the same end. -/
theorem Alike.firstHit {P : κ → μ → Prop} {attempt : σ → κ → Except ε (Bool × σ)}
    {attempt' : τ → μ → Except ε (Bool × τ)}
    (hattempt : ∀ s t x y, R s t → P x y → Alike R (attempt s x) (attempt' t y))
    {xs : List κ} {ys : List μ} (hxy : List.Forall₂ P xs ys) {s : σ} {t : τ} (hst : R s t) :
    Alike R (firstHit attempt xs s) (firstHit attempt' ys t) := by
  induction hxy generalizing s t with
  | nil => exact .ok false hst
  | @cons x y xs ys hhead _ ih =>
    have hfirst := hattempt s t x y hst hhead
    rw [Hierarchy.firstHit, Hierarchy.firstHit]
    generalize attempt s x = a at hfirst ⊢
    generalize attempt' t y = b at hfirst ⊢
    cases hfirst with
    | error e => exact .error e
    | ok hit hst' =>
      cases hit with
      | true => exact .ok true hst'
      | false => exact ih hst'

end Alike

namespace Indexed

variable {g : Indexed} {h : Hierarchy} {policy : CyclePolicy} {i : Nat} {key : String}

/-- An entity meets the goal at its place as it does under its key. -/
theorem Represents.hits_eq (hr : g.Represents h) (q : Search) (hk : g.Keyed i key) :
    g.hits q i = q.hits h key := by
  rw [hits, Search.hits, hr.node_eq hk]

/-- A cycle is named after the entity that was met again. -/
theorem Represents.cycle_eq (hr : g.Represents h) (hk : g.Keyed i key) :
    ((g.nodes[i]?).map (·.name)).getD "" = ((h.entities.find? key).map (·.name)).getD key := by
  obtain ⟨e, he, -⟩ := keyed_iff.mp hk
  rw [← hr.node_eq hk, he]
  rfl

/-- A walk from place to place visits the places of the keys that the walk from key to key
visits. -/
theorem Represents.walk (hr : g.Represents h) (q : Search) (depth : Nat) {path visited : List Nat}
    {keyPath keyVisited : List String} (hpath : List.Forall₂ g.Keyed path keyPath)
    (hvisited : List.Forall₂ g.Keyed visited keyVisited) :
    Alike (List.Forall₂ g.Keyed) (g.walk q depth path visited)
      (h.walk q depth keyPath keyVisited) := by
  induction depth generalizing path visited keyPath keyVisited with
  | zero => exact .ok false hvisited
  | succ depth ih =>
    have hcandidates : List.Forall₂ g.Keyed
        ((path.head?.map (g.neighbours q.allowed q.direction)).getD [])
        ((keyPath.head?.map (h.neighbours q.allowed q.direction)).getD []) := by
      cases hpath with
      | nil => exact .nil
      | cons hk _ => exact hr.neighbours q.allowed q.direction hk
    rw [Indexed.walk, Hierarchy.walk]
    -- Whether a candidate is on the path or has been visited is the same for its place and its key.
    refine Alike.firstHit (fun visited keyVisited next key hvisited hk => ?_) hcandidates hvisited
    have hmet : next ∈ path ↔ key ∈ keyPath := List.rel_mem hr.coherent.biUnique_keyed hk hpath
    have hseen : next ∈ visited ↔ key ∈ keyVisited :=
      List.rel_mem hr.coherent.biUnique_keyed hk hvisited
    simp only [hmet, hseen, hr.hits_eq q hk, hr.policy_eq, hr.cycle_eq hk]
    split
    · cases h.policy with
      | ignore => exact .ok false hvisited
      | error => exact .error _
    · split
      · exact .ok false hvisited
      · split
        · exact .ok true (.cons hk hvisited)
        · exact ih (.cons hk hpath) (.cons hk hvisited)

/-- A search answers from a place as it does from the key. -/
theorem Represents.reaches_eq (hr : g.Represents h) (q : Search) (hk : g.Keyed i key) :
    g.reaches q i = h.reaches q key := by
  have hstart : List.Forall₂ g.Keyed [i] [key] := .cons hk .nil
  rw [reaches, Hierarchy.reaches, hr.size_eq]
  exact (hr.walk q (h.size + 1) hstart hstart).map_eq

/-- Whether one name inherits from another is answered alike. -/
theorem Represents.inheritsFrom_eq (hr : g.Represents h) (child ancestor : String) :
    g.inheritsFrom child ancestor = h.inheritsFrom child ancestor := by
  rw [inheritsFrom, Hierarchy.inheritsFrom]
  cases hc : g.idOf? child with
  | none => rw [hr.idOf?_eq_none_iff.mp hc]
  | some c =>
    have hck := (hr.coherent _ c).mp hc
    rw [(hr.idOf?_iff hck).mp hc]
    cases ha : g.idOf? ancestor with
    | none => rw [hr.idOf?_eq_none_iff.mp ha]
    | some a =>
      have hak := (hr.coherent _ a).mp ha
      rw [(hr.idOf?_iff hak).mp ha]
      -- A name denotes the place of the ancestor exactly if it denotes the key of the ancestor.
      have hgoal : (fun e : Entity => g.idOf? e.name == some a) =
          fun e => h.idOf? e.name == some (Name.key ancestor) :=
        funext fun e => Bool.eq_iff_iff.mpr (by simpa using hr.idOf?_iff hak)
      simp only [hr.coherent.place_eq_iff hck hak, hgoal, hr.reaches_eq _ hck]

/-- The queries answer from a place as they do from the key that stands there. -/
theorem Represents.answers_eq (hr : g.Represents h) (hk : g.Keyed i key) :
    (∀ relation direction,
      g.related relation direction i = h.related relation direction key) ∧
    g.hasApiAncestor i = h.hasApiAncestor key ∧ g.hasApiDescendant i = h.hasApiDescendant key :=
  ⟨fun relation direction => hr.related_eq relation direction hk, hr.reaches_eq _ hk,
    hr.reaches_eq _ hk⟩

/-- Built from declarations, both forms answer every query about what a name denotes alike. -/
theorem build_answers_eq (declarations : List ClassLike) (policy : CyclePolicy) :
    let g := build declarations policy
    let h := Hierarchy.build declarations policy
    (∀ name, g.entity? name = h.entity? name) ∧
    (∀ child ancestor, g.inheritsFrom child ancestor = h.inheritsFrom child ancestor) ∧
    ∀ name i, g.idOf? name = some i → h.idOf? name = some (Name.key name) ∧
      (∀ relation direction,
        g.related relation direction i = h.related relation direction (Name.key name)) ∧
      g.hasApiAncestor i = h.hasApiAncestor (Name.key name) ∧
      g.hasApiDescendant i = h.hasApiDescendant (Name.key name) := by
  have hr := represents_build declarations policy
  refine ⟨hr.entity?_eq, hr.inheritsFrom_eq, fun name i hid => ?_⟩
  have hk := (hr.coherent _ i).mp hid
  exact ⟨(hr.idOf?_iff hk).mp hid, hr.answers_eq hk⟩

/-! ## What is listed -/

/-- In everything that arises no two places hold entities with the same key, each link is stored
once, and the entity at either end of a link is listed for the other end. -/
theorem Arises.lists_links (ha : g.Arises policy) :
    (g.nodes.map fun e => Name.key e.name).Nodup ∧ g.links.Nodup ∧
    ∀ (relation : Relation) (user source : Nat) (e e' : Entity),
      g.nodes[user]? = some e → g.nodes[source]? = some e' →
      (e' ∈ g.related relation .towardsSources user ↔ ⟨user, relation, source⟩ ∈ g.links) ∧
      (e ∈ g.related relation .towardsUsers source ↔ ⟨user, relation, source⟩ ∈ g.links) := by
  obtain ⟨h, hah, hr⟩ := ha.exists_represents
  have hc := hah.closed
  refine ⟨hr.coherent.nodup_keys,
    (List.rel_nodup hr.coherent.biUnique_linked hr.links).mpr hc.nodup_edges,
    fun relation user source e e' he he' => ?_⟩
  have huser : g.Keyed user (Name.key e.name) := keyed_iff.mpr ⟨e, he, rfl⟩
  have hsource : g.Keyed source (Name.key e'.name) := keyed_iff.mpr ⟨e', he', rfl⟩
  have hedge : (⟨user, relation, source⟩ : Link) ∈ g.links ↔
      ⟨Name.key e.name, relation, Name.key e'.name⟩ ∈ h.edges :=
    List.rel_mem hr.coherent.biUnique_linked ⟨huser, rfl, hsource⟩ hr.links
  rw [hr.related_eq relation _ huser, hr.related_eq relation _ hsource, hedge,
    mem_related_towardsSources_iff hc ((hr.node_eq hsource).symm.trans he'),
    mem_related_towardsUsers_iff hc ((hr.node_eq huser).symm.trans he)]
  exact ⟨.rfl, .rfl⟩

end Indexed

end Hierarchy

end VersionBump.Php
