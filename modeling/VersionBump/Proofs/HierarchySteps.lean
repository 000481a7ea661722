import Mathlib.Logic.Relation
import VersionBump.Php.Hierarchy
import VersionBump.Proofs.KeyMapEntries

/-!
# Hierarchies step by step

A hierarchy grows by steps: an entity is put in, looked up or created, marked as published or not,
or related to another one. What each step keeps holds of every hierarchy that steps lead to.

* `Hierarchy.Step` lists the steps, and `Hierarchy.Arises` says where they lead from the start.
  `Hierarchy.Step.effect` is all that a step can do.
* `Hierarchy.Closed` is the invariant: names and keys agree, and relations stand between entities,
  each of them once. `Hierarchy.Closed.step` keeps it, and `Hierarchy.Arises.closed` follows it.
* `Hierarchy.arises_build` takes building from declarations apart into steps.
* `Hierarchy.withPolicy` is the hierarchy under another policy, which no step looks at.
-/

namespace VersionBump.Php

namespace Hierarchy

variable {h h' : Hierarchy} {policy : CyclePolicy} {name : String} {kind : ClassKind}

/-! ## Names and entities -/

/-- A name denotes the entity under its key. -/
theorem idOf?_of_contains (hname : h.entities.contains (Name.key name) = true) :
    h.idOf? name = some (Name.key name) := by
  simp only [idOf?, hname, if_true]

/-- A name denotes no entity exactly if there is none under its key. -/
theorem idOf?_eq_none_iff : h.idOf? name = none ↔ h.entities.contains (Name.key name) = false := by
  simp only [idOf?]
  cases h.entities.contains (Name.key name) <;> simp

/-- What a name denotes is its key, if there is an entity. -/
theorem idOf?_eq_some_iff {id : String} :
    h.idOf? name = some id ↔ Name.key name = id ∧ h.entities.contains id = true := by
  cases hname : h.entities.contains (Name.key name) with
  | true =>
    rw [idOf?_of_contains hname, Option.some.injEq]
    exact (and_iff_left_of_imp fun heq => heq ▸ hname).symm
  | false =>
    rw [idOf?_eq_none_iff.mpr hname]
    refine iff_of_false nofun ?_
    rintro ⟨rfl, hid⟩
    exact Bool.false_ne_true (hname.symm.trans hid)

/-- What a name denotes is an entity. -/
theorem contains_of_idOf? {id : String} (hid : h.idOf? name = some id) :
    h.entities.contains id = true :=
  (idOf?_eq_some_iff.mp hid).2

/-- A known name is found, and nothing changes. -/
theorem findOrCreate_of_contains (hname : h.entities.contains (Name.key name) = true) :
    h.findOrCreate name kind = (Name.key name, h) := by
  simp only [findOrCreate, idOf?_of_contains hname]

/-- For an unknown name an entity is put in under the key of its normal form. -/
theorem findOrCreate_of_not_contains (hname : h.entities.contains (Name.key name) = false) :
    h.findOrCreate name kind = (Name.key (Name.normalize name),
      h.addEntity { name := Name.normalize name, kind }) := by
  simp only [findOrCreate, idOf?_eq_none_iff.mpr hname]

/-! ## Steps -/

/-- What may be done to a hierarchy in one step. Only entities are related. -/
inductive Step : Hierarchy → Hierarchy → Prop
  | addEntity (h : Hierarchy) (e : Entity) : Step h (h.addEntity e)
  | findOrCreate (h : Hierarchy) (name : String) (kind : ClassKind) :
      Step h (h.findOrCreate name kind).2
  | setApi (h : Hierarchy) (id : String) (isApi : Bool) : Step h (h.setApi id isApi)
  | relate {h : Hierarchy} {edge : Edge} (huser : h.entities.contains edge.user = true)
      (hsource : h.entities.contains edge.source = true) : Step h (h.relate edge)

/-- A hierarchy that steps lead to from the one without entities. -/
def Arises (policy : CyclePolicy) (h : Hierarchy) : Prop :=
  Relation.ReflTransGen Step (empty policy) h

/-- A step changes nothing, puts in one entity under the key of its name or in the place of another
of that name, or states one new relation between entities. -/
theorem Step.effect (hs : Step h h') :
    h' = h ∨
    (∃ key e, (Name.key e.name = key ∨ ∃ old, h.entities.find? key = some old ∧ e.name = old.name) ∧
      h' = { h with entities := h.entities.insert key e }) ∨
    (∃ edge, edge ∉ h.edges ∧ h.entities.contains edge.user = true ∧
      h.entities.contains edge.source = true ∧ h' = { h with edges := edge :: h.edges }) := by
  cases hs with
  | addEntity e => exact .inr (.inl ⟨_, e, .inl rfl, rfl⟩)
  | findOrCreate name kind =>
    cases hname : h.entities.contains (Name.key name) with
    | true => exact .inl (by rw [findOrCreate_of_contains hname])
    | false =>
      rw [findOrCreate_of_not_contains hname]
      exact .inr (.inl ⟨_, _, .inl rfl, rfl⟩)
  | setApi id isApi =>
    unfold Hierarchy.setApi
    cases hfound : h.entities.find? id with
    | some e => exact .inr (.inl ⟨id, { e with isApi }, .inr ⟨e, hfound, rfl⟩, rfl⟩)
    | none => exact .inl rfl
  | @relate edge huser hsource =>
    unfold Hierarchy.relate
    split
    case isTrue => exact .inl rfl
    case isFalse hnew => exact .inr (.inr ⟨edge, hnew, huser, hsource, rfl⟩)

/-! ## What a step keeps -/

/-- Every entity is known by the key of its name, and every relation leads from one entity to
another and is stored once. -/
structure Closed (h : Hierarchy) : Prop where
  key_name : ∀ key e, h.entities.find? key = some e → Name.key e.name = key
  user_mem : ∀ edge ∈ h.edges, h.entities.contains edge.user = true
  source_mem : ∀ edge ∈ h.edges, h.entities.contains edge.source = true
  nodup_edges : h.edges.Nodup

/-- Putting in an entity under the key of its name keeps a hierarchy closed. -/
theorem Closed.insert (hc : h.Closed) {key : String} {e : Entity} (he : Name.key e.name = key) :
    ({ h with entities := h.entities.insert key e } : Hierarchy).Closed where
  key_name k x hx := by
    dsimp only at hx
    rw [KeyMap.find?_insert] at hx
    split at hx
    case isTrue heq =>
      cases hx
      exact he.trans heq.symm
    case isFalse => exact hc.key_name k x hx
  user_mem edge hedge := (KeyMap.contains_insert_iff _ _ _ _).mpr (.inr (hc.user_mem edge hedge))
  source_mem edge hedge := (KeyMap.contains_insert_iff _ _ _ _).mpr (.inr (hc.source_mem edge hedge))
  nodup_edges := hc.nodup_edges

/-- Stating a new relation between entities keeps a hierarchy closed. -/
theorem Closed.cons (hc : h.Closed) {edge : Edge} (hnew : edge ∉ h.edges)
    (huser : h.entities.contains edge.user = true)
    (hsource : h.entities.contains edge.source = true) :
    ({ h with edges := edge :: h.edges } : Hierarchy).Closed where
  key_name := hc.key_name
  user_mem := List.forall_mem_cons.mpr ⟨huser, hc.user_mem⟩
  source_mem := List.forall_mem_cons.mpr ⟨hsource, hc.source_mem⟩
  nodup_edges := hc.nodup_edges.cons hnew

/-- A step keeps a hierarchy closed. -/
theorem Closed.step (hc : h.Closed) (hs : Step h h') : h'.Closed := by
  obtain rfl | ⟨key, e, hname, rfl⟩ | ⟨edge, hnew, huser, hsource, rfl⟩ := hs.effect
  · exact hc
  · refine hc.insert ?_
    rcases hname with hname | ⟨old, hold, hname⟩
    · exact hname
    · rw [hname, hc.key_name key old hold]
  · exact hc.cons hnew huser hsource

/-- Every hierarchy that arises is closed. -/
theorem Arises.closed (ha : h.Arises policy) : h.Closed := by
  induction ha with
  | refl => exact ⟨nofun, nofun, nofun, .nil⟩
  | tail _ hs ih => exact ih.step hs

/-- The keys of the names of the entities are the keys of the map. -/
theorem Closed.map_key_values (hc : h.Closed) :
    (h.entities.values.map fun e => Name.key e.name) = h.entities.keys := by
  rw [KeyMap.values, KeyMap.keys, List.map_map]
  exact List.map_congr_left fun entry hentry =>
    hc.key_name entry.1 entry.2 (KeyMap.find?_of_mem hentry)

/-- A step keeps the policy. -/
theorem Step.policy_eq (hs : Step h h') : h'.policy = h.policy := by
  obtain rfl | ⟨key, e, -, rfl⟩ | ⟨edge, -, -, -, rfl⟩ := hs.effect <;> rfl

/-- A hierarchy has the policy that it arises under. -/
theorem Arises.policy_eq (ha : h.Arises policy) : h.policy = policy := by
  induction ha with
  | refl => rfl
  | tail _ hs ih => exact hs.policy_eq.trans ih

/-- A step takes no entity away. -/
theorem Step.contains (hs : Step h h') {key : String} (hk : h.entities.contains key = true) :
    h'.entities.contains key = true := by
  obtain rfl | ⟨id, e, -, rfl⟩ | ⟨edge, -, -, -, rfl⟩ := hs.effect
  · exact hk
  · exact (KeyMap.contains_insert_iff _ _ _ _).mpr (.inr hk)
  · exact hk

/-- What is found or created under a name is an entity. -/
theorem contains_findOrCreate (h : Hierarchy) (name : String) (kind : ClassKind) :
    (h.findOrCreate name kind).2.entities.contains (h.findOrCreate name kind).1 = true := by
  cases hname : h.entities.contains (Name.key name) with
  | true => rw [findOrCreate_of_contains hname, hname]
  | false =>
    rw [findOrCreate_of_not_contains hname]
    exact (KeyMap.contains_insert_iff _ _ _ _).mpr (.inl rfl)

/-! ## Building by steps -/

/-- Any number of steps take no entity away. -/
theorem contains_of_steps (hs : Relation.ReflTransGen Step h h') {key : String}
    (hk : h.entities.contains key = true) : h'.entities.contains key = true := by
  induction hs with
  | refl => exact hk
  | tail _ hlast ih => exact hlast.contains ih

/-- A reference is made by two steps: the entity referred to is there before the relation to it. -/
private theorem steps_refer {id : String} (hid : h.entities.contains id = true) (relation : Relation)
    (kind : ClassKind) (name : String) :
    Relation.ReflTransGen Step h (h.refer id relation kind name) := by
  have hcreated : Step h (h.findOrCreate name kind).2 := .findOrCreate h name kind
  exact .tail (.single hcreated)
    (.relate (hcreated.contains hid) (contains_findOrCreate h name kind))

/-- References are made one after the other. -/
private theorem steps_foldl_refer {id : String} (hid : h.entities.contains id = true)
    (relation : Relation) (kind : ClassKind) (names : List String) :
    Relation.ReflTransGen Step h (names.foldl (fun h n => h.refer id relation kind n) h) := by
  induction names generalizing h with
  | nil => exact .refl
  | cons name names ih =>
    have hfirst := steps_refer hid relation kind name
    exact hfirst.trans (ih (contains_of_steps hfirst hid))

/-- A declaration is entered by steps. -/
theorem steps_declare (h : Hierarchy) (d : ClassLike) :
    Relation.ReflTransGen Step h (h.declare d) := by
  have hcreated := contains_findOrCreate h d.name d.kind
  have hmarked : Step (h.findOrCreate d.name d.kind).2 _ :=
    .setApi _ (h.findOrCreate d.name d.kind).1 d.isApi
  have hid := hmarked.contains hcreated
  have hparents := steps_foldl_refer hid .inherits (parentKind d.kind) d.parents
  have hinterfaces := steps_foldl_refer (contains_of_steps hparents hid) .implements .interfaceKind
    d.interfaces
  have htraits := steps_foldl_refer
    (contains_of_steps (hparents.trans hinterfaces) hid) .uses .traitKind d.traits
  exact .head (.findOrCreate h d.name d.kind)
    (.head hmarked (hparents.trans (hinterfaces.trans htraits)))

/-- The hierarchy of a list of declarations arises. -/
theorem arises_build (declarations : List ClassLike) (policy : CyclePolicy) :
    (build declarations policy).Arises policy := by
  have hfold : ∀ h : Hierarchy, h.Arises policy → (declarations.foldl declare h).Arises policy := by
    induction declarations with
    | nil => exact fun _ ha => ha
    | cons d ds ih => exact fun h ha => ih (h.declare d) (ha.trans (steps_declare h d))
  exact hfold (empty policy) .refl

/-! ## The policy -/

/-- The hierarchy with another policy. -/
def withPolicy (h : Hierarchy) (policy : CyclePolicy) : Hierarchy := { h with policy }

/-- Being closed does not depend on the policy. -/
theorem Closed.withPolicy (hc : h.Closed) (policy : CyclePolicy) : (h.withPolicy policy).Closed :=
  ⟨hc.key_name, hc.user_mem, hc.source_mem, hc.nodup_edges⟩

private theorem findOrCreate_withPolicy (policy : CyclePolicy) (name : String) (kind : ClassKind) :
    (h.withPolicy policy).findOrCreate name kind =
      ((h.findOrCreate name kind).1, (h.findOrCreate name kind).2.withPolicy policy) := by
  cases hname : h.entities.contains (Name.key name) with
  | true =>
    rw [findOrCreate_of_contains hname]
    exact findOrCreate_of_contains hname
  | false =>
    rw [findOrCreate_of_not_contains hname]
    exact findOrCreate_of_not_contains hname

private theorem setApi_withPolicy (policy : CyclePolicy) (id : String) (isApi : Bool) :
    (h.withPolicy policy).setApi id isApi = (h.setApi id isApi).withPolicy policy := by
  simp only [setApi, withPolicy]
  split <;> rfl

private theorem relate_withPolicy (policy : CyclePolicy) (e : Edge) :
    (h.withPolicy policy).relate e = (h.relate e).withPolicy policy := by
  simp only [relate, withPolicy]
  by_cases he : e ∈ h.edges <;> simp only [he, if_true, if_false]

private theorem refer_withPolicy (policy : CyclePolicy) (id : String) (relation : Relation)
    (kind : ClassKind) (name : String) :
    (h.withPolicy policy).refer id relation kind name =
      (h.refer id relation kind name).withPolicy policy := by
  simp only [refer, findOrCreate_withPolicy, relate_withPolicy]

private theorem foldl_refer_withPolicy (policy : CyclePolicy) (id : String) (relation : Relation)
    (kind : ClassKind) (names : List String) :
    names.foldl (fun h n => h.refer id relation kind n) (h.withPolicy policy) =
      (names.foldl (fun h n => h.refer id relation kind n) h).withPolicy policy := by
  induction names generalizing h with
  | nil => rfl
  | cons name names ih => rw [List.foldl_cons, refer_withPolicy, ih, List.foldl_cons]

private theorem declare_withPolicy (policy : CyclePolicy) (d : ClassLike) :
    (h.withPolicy policy).declare d = (h.declare d).withPolicy policy := by
  simp only [declare, findOrCreate_withPolicy, setApi_withPolicy, foldl_refer_withPolicy]

/-- The policy is only kept while a hierarchy is built. -/
theorem build_withPolicy (declarations : List ClassLike) (policy policy' : CyclePolicy) :
    (build declarations policy).withPolicy policy' = build declarations policy' := by
  have hfold : ∀ h : Hierarchy, (declarations.foldl declare h).withPolicy policy' =
      declarations.foldl declare (h.withPolicy policy') := by
    induction declarations with
    | nil => exact fun _ => rfl
    | cons d ds ih => exact fun h => by rw [List.foldl_cons, List.foldl_cons, ih, declare_withPolicy]
  exact hfold (empty policy)

/-- A hierarchy has the policy that it is built with. -/
theorem policy_build (declarations : List ClassLike) (policy : CyclePolicy) :
    (build declarations policy).policy = policy :=
  (arises_build declarations policy).policy_eq

end Hierarchy

end VersionBump.Php
