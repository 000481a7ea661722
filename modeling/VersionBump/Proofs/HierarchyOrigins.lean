import VersionBump.Proofs.HierarchySteps

/-!
# The origins of a hierarchy

A hierarchy is built from a list of declarations and holds nothing else: every entity is declared or
referred to by one of them, every published entity is marked by one, and every relation is stated by
one.

* `ClassLike.references` lists what a declaration refers to, and `Denotes` says which entity a name
  stands for.
* `Hierarchy.StatedBy` is the invariant. `Hierarchy.StatedBy.declare` is one step of building, and
  `Hierarchy.statedBy_build` the whole.
-/

namespace VersionBump.Php

/-- A name stands for the entity under its own key, or under that of its normal form. -/
def Denotes (name key : String) : Prop :=
  key = Name.key name ∨ key = Name.key (Name.normalize name)

/-- What a declaration refers to, by relation. -/
def ClassLike.references (d : ClassLike) : List (Relation × String) :=
  d.parents.map (.inherits, ·) ++ d.interfaces.map (.implements, ·) ++ d.traits.map (.uses, ·)

namespace Hierarchy

/-- Everything in a hierarchy goes back to one of some declarations. -/
structure StatedBy (ds : List ClassLike) (h : Hierarchy) : Prop where
  entity : ∀ key e, h.entities.find? key = some e →
    ∃ d ∈ ds, Denotes d.name key ∨ ∃ reference ∈ d.references, Denotes reference.2 key
  published : ∀ key e, h.entities.find? key = some e → e.isApi = true →
    ∃ d ∈ ds, d.isApi = true ∧ Denotes d.name key
  edge : ∀ e ∈ h.edges, ∃ d ∈ ds, Denotes d.name e.user ∧
    ∃ name, (e.relation, name) ∈ d.references ∧ Denotes name e.source

variable {ds : List ClassLike} {h : Hierarchy} {d : ClassLike}

/-- The entity that is found or created for a name is one that the name denotes. -/
private theorem denotes_findOrCreate (h : Hierarchy) (name : String) (kind : ClassKind) :
    Denotes name (h.findOrCreate name kind).1 := by
  cases hname : h.entities.contains (Name.key name) with
  | true => exact .inl (by rw [findOrCreate_of_contains hname])
  | false => exact .inr (by rw [findOrCreate_of_not_contains hname])

/-- An entity may be created for a name that is declared or referred to. It is not published yet. -/
private theorem StatedBy.findOrCreate (hs : h.StatedBy ds) (hd : d ∈ ds) {name : String}
    (hname : name = d.name ∨ ∃ relation, (relation, name) ∈ d.references) (kind : ClassKind) :
    (h.findOrCreate name kind).2.StatedBy ds := by
  cases hunknown : h.entities.contains (Name.key name) with
  | true => rwa [findOrCreate_of_contains hunknown]
  | false =>
    rw [findOrCreate_of_not_contains hunknown]
    have hdenotes : Denotes name (Name.key (Name.normalize name)) := .inr rfl
    refine ⟨fun key e he => ?_, fun key e he hapi => ?_, hs.edge⟩
    · simp only [addEntity, KeyMap.find?_insert] at he
      split at he
      case isTrue heq =>
        subst heq
        rcases hname with rfl | ⟨relation, hmem⟩
        · exact ⟨d, hd, .inl hdenotes⟩
        · exact ⟨d, hd, .inr ⟨_, hmem, hdenotes⟩⟩
      case isFalse => exact hs.entity key e he
    · simp only [addEntity, KeyMap.find?_insert] at he
      split at he
      case isTrue =>
        obtain rfl := Option.some.inj he
        exact absurd hapi Bool.false_ne_true
      case isFalse => exact hs.published key e he hapi

/-- The mark of a declaration may be set at the entity of its name. -/
private theorem StatedBy.setApi (hs : h.StatedBy ds) (hd : d ∈ ds) {id : String}
    (hid : Denotes d.name id) : (h.setApi id d.isApi).StatedBy ds := by
  unfold Hierarchy.setApi
  cases hfound : h.entities.find? id with
  | none => exact hs
  | some known =>
    refine ⟨fun key e he => ?_, fun key e he hapi => ?_, hs.edge⟩
    · simp only [KeyMap.find?_insert] at he
      split at he
      case isTrue heq => exact heq ▸ hs.entity id known hfound
      case isFalse => exact hs.entity key e he
    · simp only [KeyMap.find?_insert] at he
      split at he
      case isTrue heq =>
        obtain rfl := Option.some.inj he
        exact ⟨d, hd, hapi, heq ▸ hid⟩
      case isFalse => exact hs.published key e he hapi

/-- A relation that a declaration states may be entered. -/
private theorem StatedBy.refer (hs : h.StatedBy ds) (hd : d ∈ ds) {id : String}
    (hid : Denotes d.name id) {relation : Relation} {name : String}
    (hname : (relation, name) ∈ d.references) (kind : ClassKind) :
    (h.refer id relation kind name).StatedBy ds := by
  have hcreated := hs.findOrCreate hd (.inr ⟨relation, hname⟩) kind
  unfold Hierarchy.refer relate
  dsimp only
  split
  · exact hcreated
  · refine ⟨hcreated.entity, hcreated.published, fun edge hedge => ?_⟩
    rcases List.mem_cons.mp hedge with rfl | hedge
    · exact ⟨d, hd, hid, name, hname, denotes_findOrCreate h name kind⟩
    · exact hcreated.edge edge hedge

/-- The relations of one kind may be entered one after the other. -/
private theorem StatedBy.foldl_refer (hs : h.StatedBy ds) (hd : d ∈ ds) {id : String}
    (hid : Denotes d.name id) {relation : Relation} (kind : ClassKind) {names : List String}
    (hnames : ∀ name ∈ names, (relation, name) ∈ d.references) :
    (names.foldl (fun h n => h.refer id relation kind n) h).StatedBy ds := by
  induction names generalizing h with
  | nil => exact hs
  | cons name names ih =>
    obtain ⟨hname, hrest⟩ := List.forall_mem_cons.mp hnames
    exact ih (hs.refer hd hid hname kind) hrest

/-- A declaration that is one of those may be entered. -/
theorem StatedBy.declare (hs : h.StatedBy ds) (hd : d ∈ ds) : (h.declare d).StatedBy ds := by
  have hid := denotes_findOrCreate h d.name d.kind
  have hentered := (hs.findOrCreate hd (.inl rfl) d.kind).setApi hd hid
  have hreferences : ∀ relation name, (relation, name) ∈ d.references ↔
      relation = .inherits ∧ name ∈ d.parents ∨ relation = .implements ∧ name ∈ d.interfaces ∨
        relation = .uses ∧ name ∈ d.traits := by
    intro relation name
    simp [ClassLike.references, and_comm, eq_comm]
  refine ((hentered.foldl_refer hd hid _ fun name hname => ?_).foldl_refer hd hid _
    fun name hname => ?_).foldl_refer hd hid _ fun name hname => ?_
  · exact (hreferences _ _).mpr (.inl ⟨rfl, hname⟩)
  · exact (hreferences _ _).mpr (.inr (.inl ⟨rfl, hname⟩))
  · exact (hreferences _ _).mpr (.inr (.inr ⟨rfl, hname⟩))

/-- A hierarchy goes back to the declarations that it was built from. -/
theorem statedBy_build (ds : List ClassLike) (policy : CyclePolicy) :
    (build ds policy).StatedBy ds := by
  have hfold : ∀ (rest : List ClassLike) (h : Hierarchy), rest ⊆ ds → h.StatedBy ds →
      (rest.foldl Hierarchy.declare h).StatedBy ds := by
    intro rest
    induction rest with
    | nil => exact fun _ _ hs => hs
    | cons d rest ih =>
      intro h hsub hs
      obtain ⟨hd, hrest⟩ := List.cons_subset.mp hsub
      exact ih (h.declare d) hrest (hs.declare hd)
  refine hfold ds (empty policy) (List.Subset.refl ds) ⟨?_, ?_, ?_⟩
  · exact fun key e he => nomatch he
  · exact fun key e he => nomatch he
  · exact fun e he => nomatch he

end Hierarchy

end VersionBump.Php
