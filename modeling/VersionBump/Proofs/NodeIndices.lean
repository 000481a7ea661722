import Mathlib.Data.List.Forall2
import VersionBump.Proofs.HierarchySteps

/-!
# Node indices

The entities of a hierarchy may also be kept in the order in which they came, each known by its
place, with an index that finds the place of a key. Relations are stated between places then. An
entity may be replaced at its place and never moves, so a place that has been handed out remains
good for the key that it was handed out for.

* `Hierarchy.Indexed` is this form with the operations on it.
* `Hierarchy.Indexed.Coherent` ties the index to the places, which makes keys and places the same
  thing: `Hierarchy.Indexed.Coherent.biUnique_keyed`.
* `Hierarchy.Indexed.Represents` says which hierarchy is kept. The operations keep it and give
  places for keys: `Hierarchy.Indexed.Represents.addEntity` and its neighbours.
* `Hierarchy.Indexed.represents_build` follows a list of declarations in both forms.
* `Hierarchy.Indexed.Step` lists the steps, `Hierarchy.Indexed.Arises.exists_represents` follows
  them to a hierarchy that arises, and `Hierarchy.Indexed.Arises.idOf?_of_steps` is what they never
  change.
-/

open Relation (ReflTransGen)

namespace VersionBump.Php

namespace Hierarchy

/-- A relation between two entities, given by their places. -/
structure Link where
  user : Nat
  relation : Relation
  source : Nat
  deriving DecidableEq

/-- The entities in the order in which they came, and the place of each key. The links are listed
from the newest to the oldest. -/
structure Indexed where
  nodes : List Entity := []
  index : KeyMap String Nat := ∅
  links : List Link := []
  policy : CyclePolicy := .ignore

namespace Indexed

/-! ## Operations -/

/-- The indexed hierarchy without entities. -/
def empty (policy : CyclePolicy) : Indexed := { policy }

/-- The place of the entity that a name denotes. -/
def idOf? (g : Indexed) (name : String) : Option Nat := g.index.find? (Name.key name)

/-- The entity that a name denotes. -/
def entity? (g : Indexed) (name : String) : Option Entity := (g.idOf? name).bind (g.nodes[·]?)

/-- The place of the entity and the indexed hierarchy with it. It takes the place of one of the same
key, and comes last if there is none. -/
def addEntity (g : Indexed) (e : Entity) : Nat × Indexed :=
  match g.index.find? (Name.key e.name) with
  | some i => (i, { g with nodes := g.nodes.set i e })
  | none => (g.nodes.length, { g with
      nodes := g.nodes ++ [e], index := g.index.insert (Name.key e.name) g.nodes.length })

/-- The place of the entity that a name denotes and the indexed hierarchy that has it. A name that
denotes none gets a new unpublished entity of the given kind. -/
def findOrCreate (g : Indexed) (name : String) (kind : ClassKind) : Nat × Indexed :=
  match g.idOf? name with
  | some i => (i, g)
  | none => g.addEntity { name := Name.normalize name, kind }

/-- The indexed hierarchy with the publication of the entity at a place set. -/
def setApi (g : Indexed) (i : Nat) (isApi : Bool) : Indexed :=
  { g with nodes := g.nodes.modify i fun e => { e with isApi } }

/-- The indexed hierarchy with the link. A link is stored once. -/
def relate (g : Indexed) (l : Link) : Indexed :=
  if l ∈ g.links then g else { g with links := l :: g.links }

/-- The indexed hierarchy with the relation from a place to a named entity, which is created if need
be. -/
def refer (g : Indexed) (i : Nat) (relation : Relation) (kind : ClassKind) (name : String) :
    Indexed :=
  let (source, g) := g.findOrCreate name kind
  g.relate ⟨i, relation, source⟩

/-- The indexed hierarchy with a declaration and all that it refers to. -/
def declare (g : Indexed) (d : ClassLike) : Indexed :=
  let (i, g) := g.findOrCreate d.name d.kind
  let g := g.setApi i d.isApi
  let g := d.parents.foldl (fun g n => g.refer i .inherits (parentKind d.kind) n) g
  let g := d.interfaces.foldl (fun g n => g.refer i .implements .interfaceKind n) g
  d.traits.foldl (fun g n => g.refer i .uses .traitKind n) g

/-- The indexed hierarchy of a list of declarations. -/
def build (declarations : List ClassLike) (policy : CyclePolicy) : Indexed :=
  declarations.foldl declare (empty policy)

variable {g g' : Indexed} {h : Hierarchy} {policy : CyclePolicy} {i j : Nat} {key : String}

/-! ## Places and keys -/

/-- At a place stands an entity whose name has the key. -/
def Keyed (g : Indexed) (i : Nat) (key : String) : Prop :=
  (g.nodes[i]?).map (fun e => Name.key e.name) = some key

theorem keyed_iff : g.Keyed i key ↔ ∃ e, g.nodes[i]? = some e ∧ Name.key e.name = key :=
  Option.map_eq_some_iff

/-- The index finds for every key the place where an entity with that key stands. -/
def Coherent (g : Indexed) : Prop := ∀ key i, g.index.find? key = some i ↔ g.Keyed i key

/-- No key stands at two places, and no place has two keys. -/
theorem Coherent.biUnique_keyed (hg : g.Coherent) : Relator.BiUnique g.Keyed :=
  ⟨fun i j key hi hj => Option.some.inj (((hg key i).mpr hi).symm.trans ((hg key j).mpr hj)),
    fun _ _ _ hk hl => Option.some.inj (hk.symm.trans hl)⟩

/-- Places are the same exactly if their keys are. -/
theorem Coherent.place_eq_iff (hg : g.Coherent) {key' : String} (hi : g.Keyed i key)
    (hj : g.Keyed j key') : i = j ↔ key = key' := by
  constructor
  · rintro rfl
    exact hg.biUnique_keyed.2 hi hj
  · rintro rfl
    exact hg.biUnique_keyed.1 hi hj

/-- An entity that is put in takes the place of its key, or a new place if the key has none. -/
theorem Coherent.addEntity_eq (hg : g.Coherent) (e : Entity) :
    (∃ i, g.Keyed i (Name.key e.name) ∧ g.addEntity e = (i, { g with nodes := g.nodes.set i e })) ∨
    (g.index.find? (Name.key e.name) = none ∧ g.addEntity e = (g.nodes.length, { g with
      nodes := g.nodes ++ [e], index := g.index.insert (Name.key e.name) g.nodes.length })) := by
  rw [addEntity]
  cases hfind : g.index.find? (Name.key e.name) with
  | some i => exact .inl ⟨i, (hg _ i).mp hfind, rfl⟩
  | none => exact .inr ⟨rfl, rfl⟩

/-- The entity is found at its place, and the other places are as they were. -/
theorem Coherent.nodes_addEntity (hg : g.Coherent) (e : Entity) (j : Nat) :
    (g.addEntity e).2.nodes[j]? = if j = (g.addEntity e).1 then some e else g.nodes[j]? := by
  obtain ⟨i, hi, heq⟩ | ⟨-, heq⟩ := hg.addEntity_eq e
  · -- An entity is replaced only where one stands, so the place is not out of range.
    obtain ⟨old, hold, -⟩ := keyed_iff.mp hi
    obtain ⟨hlt, -⟩ := List.getElem?_eq_some_iff.mp hold
    rw [heq, List.getElem?_set, if_pos hlt]
    exact if_congr eq_comm rfl rfl
  · rw [heq]
    dsimp only
    split
    case isTrue hj => rw [hj, List.getElem?_concat_length]
    case isFalse hj =>
      rw [List.getElem?_append]
      split
      case isTrue => rfl
      case isFalse hlt =>
        have hout : g.nodes.length ≤ j := Nat.le_of_not_lt hlt
        rw [List.getElem?_eq_none hout, List.getElem?_eq_none (by simp; omega)]

/-- The key of the entity has its place, and the other keys are found where they were. -/
theorem Coherent.find?_index_addEntity (hg : g.Coherent) (e : Entity) (key : String) :
    (g.addEntity e).2.index.find? key =
      if key = Name.key e.name then some (g.addEntity e).1 else g.index.find? key := by
  obtain ⟨i, hi, heq⟩ | ⟨-, heq⟩ := hg.addEntity_eq e
  · rw [heq]
    split
    case isTrue hkey => rw [hkey, (hg _ i).mpr hi]
    case isFalse => rfl
  · rw [heq, KeyMap.find?_insert]

theorem links_addEntity (g : Indexed) (e : Entity) : (g.addEntity e).2.links = g.links := by
  rw [addEntity]
  split <;> rfl

theorem policy_addEntity (g : Indexed) (e : Entity) : (g.addEntity e).2.policy = g.policy := by
  rw [addEntity]
  split <;> rfl

/-- No other key had the place. -/
theorem Coherent.key_addEntity (hg : g.Coherent) (e : Entity)
    (hk : g.Keyed (g.addEntity e).1 key) : key = Name.key e.name := by
  obtain ⟨i, hi, heq⟩ | ⟨-, heq⟩ := hg.addEntity_eq e
  · rw [heq] at hk
    exact hg.biUnique_keyed.2 hk hi
  · -- Behind the last place nothing stood.
    rw [heq, Keyed, List.getElem?_eq_none (Nat.le_refl _)] at hk
    exact nomatch hk

/-- The key had no other place. -/
theorem Coherent.place_addEntity (hg : g.Coherent) (e : Entity)
    (hi : g.Keyed i (Name.key e.name)) : i = (g.addEntity e).1 := by
  obtain ⟨j, hj, heq⟩ | ⟨hnone, -⟩ := hg.addEntity_eq e
  · rw [heq]
    exact hg.biUnique_keyed.1 hi hj
  · exact nomatch hnone.symm.trans ((hg _ i).mpr hi)

/-- Putting in an entity gives its place its key, and the other places keep theirs. -/
theorem Coherent.keyed_addEntity_iff (hg : g.Coherent) (e : Entity) :
    (g.addEntity e).2.Keyed j key ↔
      if j = (g.addEntity e).1 then key = Name.key e.name else g.Keyed j key := by
  rw [Keyed, hg.nodes_addEntity]
  split
  · rw [Option.map_some, Option.some.injEq, eq_comm]
  · exact .rfl

/-- Putting in an entity keeps the index and the places together. -/
theorem Coherent.addEntity (hg : g.Coherent) (e : Entity) : (g.addEntity e).2.Coherent := by
  intro key i
  rw [hg.find?_index_addEntity, hg.keyed_addEntity_iff]
  -- The key of the entity and its place now belong together. Neither belonged to anything else.
  by_cases hkey : key = Name.key e.name
  · subst hkey
    rw [if_pos rfl, Option.some.injEq]
    by_cases hi : i = (g.addEntity e).1
    · exact iff_of_true hi.symm (by rw [if_pos hi])
    · rw [if_neg hi]
      exact iff_of_false (Ne.symm hi) fun hk => hi (hg.place_addEntity e hk)
  · rw [if_neg hkey]
    by_cases hi : i = (g.addEntity e).1
    · rw [if_pos hi]
      refine iff_of_false (fun hfind => hkey (hg.key_addEntity e ?_)) hkey
      rw [← hi]
      exact (hg key i).mp hfind
    · rw [if_neg hi]
      exact hg key i

/-! ## What is kept in places -/

/-- A link stands for an edge: its places have the keys of the edge. -/
structure Linked (g : Indexed) (l : Link) (edge : Edge) : Prop where
  user : g.Keyed l.user edge.user
  relation : l.relation = edge.relation
  source : g.Keyed l.source edge.source

/-- The places hold the entities of a hierarchy, and the links are its edges in the same order. -/
structure Represents (g : Indexed) (h : Hierarchy) : Prop where
  coherent : g.Coherent
  entity_eq : ∀ key, h.entities.find? key = (g.index.find? key).bind (g.nodes[·]?)
  links : List.Forall₂ g.Linked g.links h.edges
  policy_eq : g.policy = h.policy

/-- Every place keeps its key. -/
def Grows (g g' : Indexed) : Prop := ∀ i key, g.Keyed i key → g'.Keyed i key

theorem Grows.refl (g : Indexed) : g.Grows g := fun _ _ hk => hk

theorem Grows.trans {g'' : Indexed} (hgg : g.Grows g') (hgg' : g'.Grows g'') : g.Grows g'' :=
  fun i key hk => hgg' i key (hgg i key hk)

/-- Links go on standing for their edges where places keep their keys. -/
theorem Grows.links (hgg : g.Grows g') {ls : List Link} {edges : List Edge}
    (hl : List.Forall₂ g.Linked ls edges) : List.Forall₂ g'.Linked ls edges :=
  hl.imp fun _ _ hl => ⟨hgg _ _ hl.user, hl.relation, hgg _ _ hl.source⟩

/-- Links and edges are the same thing as well. -/
theorem Coherent.biUnique_linked (hg : g.Coherent) : Relator.BiUnique g.Linked := by
  constructor
  · rintro ⟨u, r, s⟩ ⟨u', r', s'⟩ edge hl hl'
    obtain rfl := hg.biUnique_keyed.1 hl.user hl'.user
    obtain rfl := hg.biUnique_keyed.1 hl.source hl'.source
    obtain rfl : r = r' := hl.relation.trans hl'.relation.symm
    rfl
  · rintro l ⟨u, r, s⟩ ⟨u', r', s'⟩ hl hl'
    obtain rfl := hg.biUnique_keyed.2 hl.user hl'.user
    obtain rfl := hg.biUnique_keyed.2 hl.source hl'.source
    obtain rfl : r = r' := hl.relation.symm.trans hl'.relation
    rfl

/-- At the place of a key stands the entity of the key. -/
theorem Represents.node_eq (hr : g.Represents h) (hk : g.Keyed i key) :
    g.nodes[i]? = h.entities.find? key := by
  rw [hr.entity_eq, (hr.coherent key i).mpr hk, Option.bind_some]

/-- A key has a place exactly if there is an entity under it. -/
theorem Represents.contains_iff (hr : g.Represents h) :
    h.entities.contains key = true ↔ ∃ i, g.Keyed i key := by
  rw [KeyMap.contains, Option.isSome_iff_exists]
  constructor
  · rintro ⟨e, he⟩
    rw [hr.entity_eq, Option.bind_eq_some_iff] at he
    obtain ⟨i, hi, -⟩ := he
    exact ⟨i, (hr.coherent key i).mp hi⟩
  · rintro ⟨i, hi⟩
    obtain ⟨e, he, -⟩ := keyed_iff.mp hi
    exact ⟨e, (hr.node_eq hi).symm.trans he⟩

/-! ## What the operations keep -/

theorem represents_empty (policy : CyclePolicy) :
    (empty policy).Represents (Hierarchy.empty policy) :=
  ⟨fun _ _ => iff_of_false nofun nofun, fun _ => rfl, .nil, rfl⟩

/-- Putting in an entity gives its key a place, and no place loses its key. -/
theorem Represents.addEntity (hr : g.Represents h) (e : Entity) :
    (g.addEntity e).2.Represents (h.addEntity e) ∧
      (g.addEntity e).2.Keyed (g.addEntity e).1 (Name.key e.name) ∧ g.Grows (g.addEntity e).2 := by
  have hg := hr.coherent
  have hkeyed : (g.addEntity e).2.Keyed (g.addEntity e).1 (Name.key e.name) := by
    rw [hg.keyed_addEntity_iff, if_pos rfl]
  have hgrows : g.Grows (g.addEntity e).2 := by
    intro j key hk
    rw [hg.keyed_addEntity_iff]
    split
    case isTrue hj => exact hg.key_addEntity e (hj ▸ hk)
    case isFalse => exact hk
  refine ⟨⟨hg.addEntity e, fun key => ?_, ?_, ?_⟩, hkeyed, hgrows⟩
  · rw [Hierarchy.addEntity, KeyMap.find?_insert, hg.find?_index_addEntity]
    split
    case isTrue hkey => rw [Option.bind_some, hg.nodes_addEntity, if_pos rfl]
    case isFalse hkey =>
      rw [hr.entity_eq]
      refine Option.bind_congr fun j hj => ?_
      -- Another key has another place, and what stands there is as it was.
      have hne : j ≠ (g.addEntity e).1 := fun heq =>
        hkey (hg.key_addEntity e (heq ▸ (hg key j).mp hj))
      rw [hg.nodes_addEntity, if_neg hne]
  · rw [links_addEntity]
    exact hgrows.links hr.links
  · rw [policy_addEntity, hr.policy_eq]
    rfl

/-- A name denotes a place exactly if it denotes the key that stands there. -/
theorem Represents.idOf?_iff (hr : g.Represents h) {name : String} (hk : g.Keyed i key) :
    g.idOf? name = some i ↔ h.idOf? name = some key := by
  have hknown : h.entities.contains key = true := hr.contains_iff.mpr ⟨i, hk⟩
  rw [idOf?, hr.coherent, idOf?_eq_some_iff, and_iff_left hknown]
  exact ⟨fun hi => hr.coherent.biUnique_keyed.2 hi hk, fun heq => heq ▸ hk⟩

/-- A name denotes no place exactly if it denotes no entity. -/
theorem Represents.idOf?_eq_none_iff (hr : g.Represents h) {name : String} :
    g.idOf? name = none ↔ h.idOf? name = none := by
  rw [Hierarchy.idOf?_eq_none_iff, ← Bool.not_eq_true, hr.contains_iff, not_exists,
    Option.eq_none_iff_forall_ne_some]
  exact forall_congr' fun i => not_congr (hr.coherent _ i)

/-- A name denotes the same entity. -/
theorem Represents.entity?_eq (hr : g.Represents h) (name : String) :
    g.entity? name = h.entity? name :=
  (hr.entity_eq (Name.key name)).symm

/-- Looking up or creating gives a place for the key. -/
theorem Represents.findOrCreate (hr : g.Represents h) (name : String) (kind : ClassKind) :
    (g.findOrCreate name kind).2.Represents (h.findOrCreate name kind).2 ∧
      (g.findOrCreate name kind).2.Keyed (g.findOrCreate name kind).1 (h.findOrCreate name kind).1 ∧
      g.Grows (g.findOrCreate name kind).2 := by
  rw [Indexed.findOrCreate, Hierarchy.findOrCreate]
  cases hid : g.idOf? name with
  | some i =>
    have hk : g.Keyed i (Name.key name) := (hr.coherent _ i).mp hid
    rw [(hr.idOf?_iff hk).mp hid]
    exact ⟨hr, hk, .refl g⟩
  | none =>
    rw [hr.idOf?_eq_none_iff.mp hid]
    exact hr.addEntity _

/-- Setting the publication changes no key. -/
theorem keyed_setApi_iff (g : Indexed) (i : Nat) (isApi : Bool) :
    (g.setApi i isApi).Keyed j key ↔ g.Keyed j key := by
  rw [Keyed, setApi, List.getElem?_modify, Keyed]
  cases g.nodes[j]? with
  | none => exact .rfl
  | some e => by_cases hj : i = j <;> simp [hj]

/-- Setting the publication at a place sets it for the key that stands there. -/
theorem Represents.setApi (hr : g.Represents h) (hk : g.Keyed i key) (isApi : Bool) :
    (g.setApi i isApi).Represents (h.setApi key isApi) ∧ g.Grows (g.setApi i isApi) := by
  have hgrows : g.Grows (g.setApi i isApi) := fun j k hj => (keyed_setApi_iff g i isApi).mpr hj
  obtain ⟨e, he, -⟩ := keyed_iff.mp hk
  have hfind : h.entities.find? key = some e := (hr.node_eq hk).symm.trans he
  rw [Hierarchy.setApi, hfind]
  refine ⟨⟨fun k j => ?_, fun k => ?_, hgrows.links hr.links, hr.policy_eq⟩, hgrows⟩
  · rw [keyed_setApi_iff]
    exact hr.coherent k j
  · dsimp only [Indexed.setApi]
    rw [KeyMap.find?_insert]
    split
    case isTrue heq =>
      rw [heq, (hr.coherent key i).mpr hk, Option.bind_some, List.getElem?_modify, he]
      simp
    case isFalse hne =>
      rw [hr.entity_eq]
      refine Option.bind_congr fun j hj => ?_
      have hplace : i ≠ j := fun heq =>
        hne (hr.coherent.biUnique_keyed.2 ((hr.coherent k j).mp hj) (heq ▸ hk))
      rw [List.getElem?_modify]
      simp [hplace]

/-- Stating a link states the edge that it stands for. -/
theorem Represents.relate (hr : g.Represents h) {l : Link} {edge : Edge} (hl : g.Linked l edge) :
    (g.relate l).Represents (h.relate edge) ∧ g.Grows (g.relate l) := by
  have hmem : l ∈ g.links ↔ edge ∈ h.edges :=
    List.rel_mem hr.coherent.biUnique_linked hl hr.links
  rw [Indexed.relate, Hierarchy.relate]
  -- The link is known exactly if the edge is, as no other link stands for the edge.
  by_cases hknown : l ∈ g.links
  · rw [if_pos hknown, if_pos (hmem.mp hknown)]
    exact ⟨hr, .refl g⟩
  · rw [if_neg hknown, if_neg fun hedge => hknown (hmem.mpr hedge)]
    have hgrows : g.Grows { g with links := l :: g.links } := fun _ _ hk => hk
    exact ⟨⟨hr.coherent, hr.entity_eq, hgrows.links (.cons hl hr.links), hr.policy_eq⟩, hgrows⟩

/-! ## Building -/

/-- A reference is made from the place of a key as it is from the key. -/
private theorem Represents.refer (hr : g.Represents h) (hk : g.Keyed i key) (relation : Relation)
    (kind : ClassKind) (name : String) :
    (g.refer i relation kind name).Represents (h.refer key relation kind name) ∧
      g.Grows (g.refer i relation kind name) := by
  obtain ⟨hfound, hsource, hgrows⟩ := hr.findOrCreate name kind
  have hl : (g.findOrCreate name kind).2.Linked ⟨i, relation, (g.findOrCreate name kind).1⟩
      ⟨key, relation, (h.findOrCreate name kind).1⟩ := ⟨hgrows i key hk, rfl, hsource⟩
  obtain ⟨hrelated, hkept⟩ := hfound.relate hl
  exact ⟨hrelated, hgrows.trans hkept⟩

/-- References are made one after the other. -/
private theorem Represents.foldl_refer (hr : g.Represents h) (hk : g.Keyed i key)
    (relation : Relation) (kind : ClassKind) (names : List String) :
    (names.foldl (fun g n => g.refer i relation kind n) g).Represents
        (names.foldl (fun h n => h.refer key relation kind n) h) ∧
      g.Grows (names.foldl (fun g n => g.refer i relation kind n) g) := by
  induction names generalizing g h with
  | nil => exact ⟨hr, .refl g⟩
  | cons name names ih =>
    obtain ⟨hfirst, hgrows⟩ := hr.refer hk relation kind name
    obtain ⟨hrest, hkept⟩ := ih hfirst (hgrows _ _ hk)
    exact ⟨hrest, hgrows.trans hkept⟩

/-- A declaration is entered in both forms. -/
theorem Represents.declare (hr : g.Represents h) (d : ClassLike) :
    (g.declare d).Represents (h.declare d) := by
  obtain ⟨hfound, hk, -⟩ := hr.findOrCreate d.name d.kind
  obtain ⟨hmarked, hgrows⟩ := hfound.setApi hk d.isApi
  have hk := hgrows _ _ hk
  obtain ⟨hparents, hgrows⟩ :=
    hmarked.foldl_refer hk .inherits (Hierarchy.parentKind d.kind) d.parents
  have hk := hgrows _ _ hk
  obtain ⟨hinterfaces, hgrows⟩ := hparents.foldl_refer hk .implements .interfaceKind d.interfaces
  exact (hinterfaces.foldl_refer (hgrows _ _ hk) .uses .traitKind d.traits).1

/-- The hierarchy of a list of declarations is kept in places by the same declarations. -/
theorem represents_build (declarations : List ClassLike) (policy : CyclePolicy) :
    (build declarations policy).Represents (Hierarchy.build declarations policy) := by
  have hfold : ∀ (g : Indexed) (h : Hierarchy), g.Represents h →
      (declarations.foldl Indexed.declare g).Represents
        (declarations.foldl Hierarchy.declare h) := by
    induction declarations with
    | nil => exact fun _ _ hr => hr
    | cons d ds ih => exact fun g h hr => ih _ _ (hr.declare d)
  exact hfold _ _ (represents_empty policy)

/-! ## Steps -/

/-- What may be done to an indexed hierarchy in one step. Only places that are taken are marked and
related. -/
inductive Step : Indexed → Indexed → Prop
  | addEntity (g : Indexed) (e : Entity) : Step g (g.addEntity e).2
  | findOrCreate (g : Indexed) (name : String) (kind : ClassKind) :
      Step g (g.findOrCreate name kind).2
  | setApi {g : Indexed} {i : Nat} (hi : i < g.nodes.length) (isApi : Bool) :
      Step g (g.setApi i isApi)
  | relate {g : Indexed} {l : Link} (huser : l.user < g.nodes.length)
      (hsource : l.source < g.nodes.length) : Step g (g.relate l)

/-- An indexed hierarchy that steps lead to from the one without entities. -/
def Arises (policy : CyclePolicy) (g : Indexed) : Prop := ReflTransGen Step (empty policy) g

/-- A place that is taken has a key. -/
theorem exists_keyed_of_lt (hi : i < g.nodes.length) : ∃ key, g.Keyed i key :=
  ⟨_, keyed_iff.mpr ⟨g.nodes[i], List.getElem?_eq_getElem hi, rfl⟩⟩

/-- A step is one of the hierarchy that is kept, and every place keeps its key. -/
theorem Represents.step (hr : g.Represents h) (hs : Step g g') :
    ∃ h', Hierarchy.Step h h' ∧ g'.Represents h' ∧ g.Grows g' := by
  cases hs with
  | addEntity e =>
    obtain ⟨hadded, -, hgrows⟩ := hr.addEntity e
    exact ⟨_, .addEntity h e, hadded, hgrows⟩
  | findOrCreate name kind =>
    obtain ⟨hfound, -, hgrows⟩ := hr.findOrCreate name kind
    exact ⟨_, .findOrCreate h name kind, hfound, hgrows⟩
  | setApi hi isApi =>
    obtain ⟨key, hk⟩ := exists_keyed_of_lt hi
    exact ⟨_, .setApi h key isApi, hr.setApi hk isApi⟩
  | @relate l huser hsource =>
    obtain ⟨user, hu⟩ := exists_keyed_of_lt huser
    obtain ⟨source, hs⟩ := exists_keyed_of_lt hsource
    have hl : g.Linked l ⟨user, l.relation, source⟩ := ⟨hu, rfl, hs⟩
    exact ⟨_, .relate (hr.contains_iff.mpr ⟨_, hu⟩) (hr.contains_iff.mpr ⟨_, hs⟩), hr.relate hl⟩

/-- Steps lead to a hierarchy that is kept as they do in the hierarchy itself. -/
theorem Represents.steps (hr : g.Represents h) (hs : ReflTransGen Step g g') :
    ∃ h', ReflTransGen Hierarchy.Step h h' ∧ g'.Represents h' ∧ g.Grows g' := by
  induction hs with
  | refl => exact ⟨h, .refl, hr, .refl g⟩
  | tail _ hlast ih =>
    obtain ⟨h', hsteps, hr', hgrows⟩ := ih
    obtain ⟨h'', hstep, hr'', hkept⟩ := hr'.step hlast
    exact ⟨h'', hsteps.tail hstep, hr'', hgrows.trans hkept⟩

/-- What arises in places is a hierarchy that arises. -/
theorem Arises.exists_represents (ha : g.Arises policy) :
    ∃ h, h.Arises policy ∧ g.Represents h := by
  obtain ⟨h, hsteps, hr, -⟩ := (represents_empty policy).steps ha
  exact ⟨h, hsteps, hr⟩

/-- A place that has been handed out keeps its key, and a name keeps the place that it denotes. -/
theorem Arises.idOf?_of_steps (ha : g.Arises policy) (hs : ReflTransGen Step g g') {name : String}
    (hid : g.idOf? name = some i) :
    g'.idOf? name = some i ∧ g.Keyed i (Name.key name) ∧ g'.Keyed i (Name.key name) := by
  obtain ⟨h, -, hr⟩ := ha.exists_represents
  obtain ⟨h', -, hr', hgrows⟩ := hr.steps hs
  have hk : g.Keyed i (Name.key name) := (hr.coherent _ i).mp hid
  exact ⟨(hr'.coherent _ i).mpr (hgrows _ _ hk), hk, hgrows _ _ hk⟩

end Indexed

end Hierarchy

end VersionBump.Php
