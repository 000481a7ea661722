import VersionBump.Proofs.HierarchyOrigins
import VersionBump.Proofs.NormalForms
import VersionBump.Proofs.ReachableEntities

/-!
# Declared hierarchies

A hierarchy that is built from declarations holds what they declare and nothing else, as long as all
names that they write are stable: an entity for each key, published as its last declaration says,
and the relations that the declarations state. The order of the declarations counts only where a key
is declared twice.

* `ClassLike.names` and `ClassLike.edges` are what a declaration writes, and `ClassLike.lastOf?` is
  the last declaration of a key.
* `Hierarchy.Adds` says how one hierarchy differs from another in what a query can see of them, and
  `Hierarchy.adds_refer` how much a reference adds.
* `Hierarchy.Holds` is the invariant of building. `Hierarchy.Holds.declare` is one declaration, and
  `Hierarchy.holds_build` the whole list.
* `Hierarchy.build_yields_declared` is the statement.
-/

namespace VersionBump.Php

/-! ## What is declared -/

namespace ClassLike

/-- The names that a declaration writes: its own and those that it refers to. -/
def names (d : ClassLike) : List String := d.name :: d.references.map (·.2)

/-- The relations that a declaration states. -/
def edges (d : ClassLike) : List Edge := d.references.map fun r => ⟨d.key, r.1, Name.key r.2⟩

/-- The last declaration of a key. -/
def lastOf? (ds : List ClassLike) (key : String) : Option ClassLike :=
  ds.reverse.find? (·.key == key)

/-- One more declaration is the last of its key. -/
theorem lastOf?_append_singleton (ds : List ClassLike) (d : ClassLike) (key : String) :
    lastOf? (ds ++ [d]) key = if key = d.key then some d else lastOf? ds key := by
  rw [lastOf?, List.reverse_append, List.reverse_singleton, List.singleton_append, List.find?_cons]
  by_cases hkey : key = d.key
  · simp [hkey]
  · have hne : (d.key == key) = false := beq_eq_false_iff_ne.mpr fun h => hkey h.symm
    rw [hne, if_neg hkey]
    rfl

/-- Where no key is declared twice, every declaration is the last of its key. -/
theorem lastOf?_eq_some_iff {ds : List ClassLike} (hnodup : (ds.map (·.key)).Nodup) {key : String}
    {d : ClassLike} : lastOf? ds key = some d ↔ d ∈ ds ∧ d.key = key := by
  constructor
  · intro hlast
    have hkey : d.key = key := by simpa using List.find?_some hlast
    exact ⟨List.mem_reverse.mp (List.mem_of_find?_eq_some hlast), hkey⟩
  · rintro ⟨hd, rfl⟩
    -- Some declaration of the key comes last, and there is only one.
    have hfound : (lastOf? ds d.key).isSome := by
      rw [lastOf?, List.find?_isSome]
      exact ⟨d, List.mem_reverse.mpr hd, beq_self_eq_true _⟩
    obtain ⟨other, hother⟩ := Option.isSome_iff_exists.mp hfound
    have hkey : other.key = d.key := by simpa using List.find?_some hother
    have hmem := List.mem_reverse.mp (List.mem_of_find?_eq_some hother)
    rw [hother, List.inj_on_of_nodup_map hnodup hmem hd hkey]

end ClassLike

namespace Hierarchy

variable {h h' h'' : Hierarchy} {name id : String} {kind : ClassKind}

/-! ## Finding, creating and marking -/

/-- The entity of a stable name is the one under its key. -/
theorem findOrCreate_fst (hname : Name.Stable name) :
    (h.findOrCreate name kind).1 = Name.key name := by
  cases hknown : h.entities.contains (Name.key name) with
  | true => rw [findOrCreate_of_contains hknown]
  | false => rw [findOrCreate_of_not_contains hknown, (Name.key_normalize_iff name).mpr hname]

/-- Putting in an entity decides whether its key is published. -/
theorem isPublished_insert (h : Hierarchy) (id : String) (e : Entity) (key : String) :
    ({ h with entities := h.entities.insert id e } : Hierarchy).isPublished key =
      if key = id then e.isApi else h.isPublished key := by
  simp only [isPublished, KeyMap.find?_insert]
  split <;> rfl

/-- What is not known is not published. -/
theorem isPublished_of_not_contains {key : String} (hkey : h.entities.contains key = false) :
    h.isPublished key = false := by
  rw [isPublished, KeyMap.contains_eq_false_iff.mp hkey]
  rfl

/-- Marking an entity decides whether its key is published. -/
theorem isPublished_setApi (hid : h.entities.contains id = true) (isApi : Bool) (key : String) :
    (h.setApi id isApi).isPublished key = if key = id then isApi else h.isPublished key := by
  obtain ⟨e, he⟩ := Option.isSome_iff_exists.mp hid
  simp only [setApi, he, isPublished_insert]

/-- Marking an entity adds none. -/
theorem contains_setApi (h : Hierarchy) (id : String) (isApi : Bool) (key : String) :
    (h.setApi id isApi).entities.contains key = true ↔ h.entities.contains key = true := by
  unfold setApi
  split
  case h_1 e he =>
    refine (KeyMap.contains_insert_iff _ _ _ _).trans (or_iff_right_of_imp ?_)
    rintro rfl
    rw [KeyMap.contains, he, Option.isSome_some]
  case h_2 => rfl

/-- Marking an entity relates nothing. -/
theorem edges_setApi (h : Hierarchy) (id : String) (isApi : Bool) :
    (h.setApi id isApi).edges = h.edges := by
  unfold setApi
  split <;> rfl

/-! ## What is added -/

/-- One hierarchy has some keys and edges more than another and publishes the same. -/
structure Adds (h : Hierarchy) (keys : List String) (edges : List Edge) (h' : Hierarchy) :
    Prop where
  contains_iff : ∀ key, h'.entities.contains key = true ↔
    key ∈ keys ∨ h.entities.contains key = true
  isPublished_eq : ∀ key, h'.isPublished key = h.isPublished key
  mem_edges_iff : ∀ e, e ∈ h'.edges ↔ e ∈ edges ∨ e ∈ h.edges

theorem Adds.refl (h : Hierarchy) : h.Adds [] [] h := ⟨by simp, fun _ => rfl, by simp⟩

/-- What is added in turn is added together. -/
theorem Adds.trans {keys keys' : List String} {edges edges' : List Edge}
    (hfirst : h.Adds keys edges h') (hsecond : h'.Adds keys' edges' h'') :
    h.Adds (keys ++ keys') (edges ++ edges') h'' where
  contains_iff key := by
    rw [hsecond.contains_iff, hfirst.contains_iff, List.mem_append, or_left_comm, or_assoc]
  isPublished_eq key := (hsecond.isPublished_eq key).trans (hfirst.isPublished_eq key)
  mem_edges_iff e := by
    rw [hsecond.mem_edges_iff, hfirst.mem_edges_iff, List.mem_append, or_left_comm, or_assoc]

/-- Looking up a stable name adds its key. What was published stays so. -/
theorem adds_findOrCreate (hname : Name.Stable name) (h : Hierarchy) (kind : ClassKind) :
    h.Adds [Name.key name] [] (h.findOrCreate name kind).2 := by
  cases hknown : h.entities.contains (Name.key name) with
  | true =>
    rw [findOrCreate_of_contains hknown]
    refine ⟨fun key => (or_iff_right_of_imp fun hkey => ?_).symm, fun _ => rfl, by simp⟩
    rw [List.mem_singleton.mp hkey, hknown]
  | false =>
    rw [findOrCreate_of_not_contains hknown, addEntity, (Name.key_normalize_iff name).mpr hname]
    refine ⟨fun key => ?_, fun key => ?_, by simp⟩
    · rw [KeyMap.contains_insert_iff, List.mem_singleton]
    · rw [isPublished_insert]
      -- The new entity is not published, but what was not known was not published either.
      split
      case isTrue hkey => rw [hkey, isPublished_of_not_contains hknown]
      case isFalse => rfl

/-- A reference by a stable name adds the key of the name and one edge. -/
theorem adds_refer (hname : Name.Stable name) (h : Hierarchy) (id : String) (relation : Relation)
    (kind : ClassKind) :
    h.Adds [Name.key name] [⟨id, relation, Name.key name⟩] (h.refer id relation kind name) := by
  have hcreated := adds_findOrCreate hname h kind
  simp only [refer, findOrCreate_fst hname, relate]
  split
  case isTrue hmem =>
    -- The edge has been stated before, so that nothing is added to the edges.
    refine ⟨hcreated.contains_iff, hcreated.isPublished_eq, fun e => ?_⟩
    refine (or_iff_right_of_imp fun he => ?_).symm.trans
      (or_congr_right ((hcreated.mem_edges_iff e).trans (by simp)))
    rwa [List.mem_singleton.mp he]
  case isFalse =>
    refine ⟨hcreated.contains_iff, hcreated.isPublished_eq, fun e => ?_⟩
    rw [List.mem_cons, hcreated.mem_edges_iff, List.mem_singleton]
    simp

/-- References by stable names add the keys of the names and their edges. -/
theorem adds_foldl_refer {names : List String} (hnames : ∀ name ∈ names, Name.Stable name)
    (h : Hierarchy) (id : String) (relation : Relation) (kind : ClassKind) :
    h.Adds (names.map Name.key) (names.map fun name => ⟨id, relation, Name.key name⟩)
      (names.foldl (fun h n => h.refer id relation kind n) h) := by
  induction names generalizing h with
  | nil => exact .refl h
  | cons name names ih =>
    obtain ⟨hname, hrest⟩ := List.forall_mem_cons.mp hnames
    exact (adds_refer hname h id relation kind).trans (ih hrest _)

/-! ## One declaration -/

variable {d : ClassLike}

/-- Behind the entity that it declares, a declaration adds what it refers to. -/
theorem adds_declare (hstable : ∀ name ∈ d.names, Name.Stable name) (h : Hierarchy) :
    ((h.findOrCreate d.name d.kind).2.setApi d.key d.isApi).Adds
      (d.references.map fun r => Name.key r.2) d.edges (h.declare d) := by
  obtain ⟨hname, hreferences⟩ := List.forall_mem_cons.mp hstable
  have hrefer : ∀ name, name ∈ d.parents ∨ name ∈ d.interfaces ∨ name ∈ d.traits →
      Name.Stable name := by
    intro name hmem
    refine hreferences name ?_
    simpa [ClassLike.references, or_assoc] using hmem
  have hparents := adds_foldl_refer (fun name hmem => hrefer name (.inl hmem))
    ((h.findOrCreate d.name d.kind).2.setApi d.key d.isApi) d.key .inherits (parentKind d.kind)
  have hinterfaces := hparents.trans
    (adds_foldl_refer (fun name hmem => hrefer name (.inr (.inl hmem))) _ d.key .implements
      .interfaceKind)
  have htraits := hinterfaces.trans
    (adds_foldl_refer (fun name hmem => hrefer name (.inr (.inr hmem))) _ d.key .uses .traitKind)
  have hid : (h.findOrCreate d.name d.kind).1 = d.key := findOrCreate_fst hname
  simpa only [declare, hid, ClassLike.edges, ClassLike.references, List.map_append, List.map_map,
    Function.comp_def] using htraits

/-- After a declaration the keys of the names that it writes are known. -/
theorem contains_declare_iff (hstable : ∀ name ∈ d.names, Name.Stable name) (h : Hierarchy)
    (key : String) : (h.declare d).entities.contains key = true ↔
      key ∈ d.names.map Name.key ∨ h.entities.contains key = true := by
  have hcreated := adds_findOrCreate (hstable d.name List.mem_cons_self) h d.kind
  rw [(adds_declare hstable h).contains_iff, contains_setApi, hcreated.contains_iff,
    List.mem_singleton, ClassLike.names, List.map_cons, List.mem_cons, List.map_map, or_left_comm,
    or_assoc]
  rfl

/-- A declaration decides whether its key is published, and no other. -/
theorem isPublished_declare (hstable : ∀ name ∈ d.names, Name.Stable name) (h : Hierarchy)
    (key : String) :
    (h.declare d).isPublished key = if key = d.key then d.isApi else h.isPublished key := by
  have hcreated := adds_findOrCreate (hstable d.name List.mem_cons_self) h d.kind
  have hknown : (h.findOrCreate d.name d.kind).2.entities.contains d.key = true :=
    (hcreated.contains_iff d.key).mpr (.inl List.mem_cons_self)
  rw [(adds_declare hstable h).isPublished_eq, isPublished_setApi hknown, hcreated.isPublished_eq]

/-- A declaration adds the relations that it states. -/
theorem mem_edges_declare_iff (hstable : ∀ name ∈ d.names, Name.Stable name) (h : Hierarchy)
    (e : Edge) : e ∈ (h.declare d).edges ↔ e ∈ d.edges ∨ e ∈ h.edges := by
  have hcreated := adds_findOrCreate (hstable d.name List.mem_cons_self) h d.kind
  rw [(adds_declare hstable h).mem_edges_iff, edges_setApi, hcreated.mem_edges_iff]
  simp

/-! ## All declarations -/

variable {ds ds' : List ClassLike} {policy : CyclePolicy}

/-- A hierarchy holds what some declarations declare and nothing else. -/
structure Holds (ds : List ClassLike) (h : Hierarchy) : Prop where
  contains_iff : ∀ key, h.entities.contains key = true ↔ ∃ d ∈ ds, key ∈ d.names.map Name.key
  isPublished_eq : ∀ key, h.isPublished key = (ClassLike.lastOf? ds key).any (·.isApi)
  mem_edges_iff : ∀ e, e ∈ h.edges ↔ ∃ d ∈ ds, e ∈ d.edges

/-- One more declaration may be entered. -/
theorem Holds.declare (hh : h.Holds ds) (hstable : ∀ name ∈ d.names, Name.Stable name) :
    (h.declare d).Holds (ds ++ [d]) where
  contains_iff key := by
    rw [contains_declare_iff hstable, hh.contains_iff]
    simp only [List.mem_append, List.mem_singleton, or_and_right, exists_or, exists_eq_left]
    exact or_comm
  isPublished_eq key := by
    rw [isPublished_declare hstable, hh.isPublished_eq, ClassLike.lastOf?_append_singleton]
    split <;> rfl
  mem_edges_iff e := by
    rw [mem_edges_declare_iff hstable, hh.mem_edges_iff]
    simp only [List.mem_append, List.mem_singleton, or_and_right, exists_or, exists_eq_left]
    exact or_comm

/-- A hierarchy holds the declarations that it is built from. -/
theorem holds_build (hstable : ∀ d ∈ ds, ∀ name ∈ d.names, Name.Stable name)
    (policy : CyclePolicy) : (build ds policy).Holds ds := by
  induction ds using List.reverseRecOn with
  | nil =>
    exact ⟨fun _ => iff_of_false nofun (by simp), fun _ => rfl, fun _ => by simp [build, empty]⟩
  | append_singleton ds d ih =>
    have hsnoc : build (ds ++ [d]) policy = (build ds policy).declare d := by
      rw [build, List.foldl_append]
      rfl
    rw [hsnoc]
    exact (ih fun d hd => hstable d (List.mem_append_left _ hd)).declare
      (hstable d (List.mem_append_right _ List.mem_cons_self))

/-! ## The order of declarations -/

/-- Hierarchies that hold the same declarations, in any order, differ in nothing that a query sees,
if no key is declared twice. -/
theorem Holds.adds_of_perm (hh : h.Holds ds) (hh' : h'.Holds ds') (hperm : ds.Perm ds')
    (hnodup : (ds.map (·.key)).Nodup) : h.Adds [] [] h' where
  contains_iff key := by
    simp only [hh.contains_iff, hh'.contains_iff, hperm.mem_iff, List.not_mem_nil, false_or]
  isPublished_eq key := by
    have hnodup' : (ds'.map (·.key)).Nodup := (hperm.map _).nodup_iff.mp hnodup
    have hlast : ClassLike.lastOf? ds' key = ClassLike.lastOf? ds key := by
      refine Option.ext fun d => ?_
      rw [ClassLike.lastOf?_eq_some_iff hnodup, ClassLike.lastOf?_eq_some_iff hnodup', hperm.mem_iff]
    rw [hh.isPublished_eq, hh'.isPublished_eq, hlast]
  mem_edges_iff e := by
    simp only [hh.mem_edges_iff, hh'.mem_edges_iff, hperm.mem_iff, List.not_mem_nil, false_or]

/-- Two questions that have answers have the same, if the answers tell the same. -/
private theorem eq_of_iff {given other : Except Cycle Bool} {p : Prop} (hgiven : given.isOk)
    (hother : other.isOk) (hgivenp : ∀ answer, given = .ok answer → (answer = true ↔ p))
    (hotherp : ∀ answer, other = .ok answer → (answer = true ↔ p)) : given = other := by
  obtain ⟨answer, hanswer⟩ := exists_eq_ok_of_isOk hgiven
  rw [hanswer, agree_of_iff hgivenp hotherp hother answer hanswer]

section Alike

variable (ha : h.Adds [] [] h')
include ha

/-- Names denote the same where nothing is added. -/
theorem Adds.idOf?_eq (name : String) : h'.idOf? name = h.idOf? name := by
  have hcontains : h'.entities.contains (Name.key name) = h.entities.contains (Name.key name) :=
    Bool.eq_iff_iff.mpr ((ha.contains_iff _).trans (by simp))
  simp only [idOf?, hcontains]

theorem Adds.dependsOn_eq : h'.DependsOn = h.DependsOn := by
  ext user source
  simp only [DependsOn, ha.mem_edges_iff, List.not_mem_nil, false_or]

theorem Adds.extends_eq : h'.Extends = h.Extends := by
  ext user source
  simp only [Extends, ha.mem_edges_iff, List.not_mem_nil, false_or]

variable (hc : h.Closed) (hc' : h'.Closed) (hp : h.policy = .ignore) (hp' : h'.policy = .ignore)
include hc hc' hp hp'

/-- Questions about ancestors have the same answers where nothing is added. -/
theorem Adds.hasApiAncestor_eq (key : String) : h'.hasApiAncestor key = h.hasApiAncestor key := by
  refine eq_of_iff (isOk_map (isOk_walk hp' _ _ _ _)) (isOk_map (isOk_walk hp _ _ _ _))
    (fun _ => hasApiAncestor_iff hc') fun answer hanswer => ?_
  simp only [ha.dependsOn_eq, ha.isPublished_eq]
  exact hasApiAncestor_iff hc hanswer

/-- Questions about descendants have the same answers where nothing is added. -/
theorem Adds.hasApiDescendant_eq (key : String) :
    h'.hasApiDescendant key = h.hasApiDescendant key := by
  refine eq_of_iff (isOk_map (isOk_walk hp' _ _ _ _)) (isOk_map (isOk_walk hp _ _ _ _))
    (fun _ => hasApiDescendant_iff hc') fun answer hanswer => ?_
  simp only [ha.dependsOn_eq, ha.isPublished_eq]
  exact hasApiDescendant_iff hc hanswer

/-- Questions about inheritance have the same answers where nothing is added. -/
theorem Adds.inheritsFrom_eq (child ancestor : String) :
    h'.inheritsFrom child ancestor = h.inheritsFrom child ancestor := by
  refine eq_of_iff (isOk_inheritsFrom hp' _ _) (isOk_inheritsFrom hp _ _)
    (fun _ => inheritsFrom_iff hc') fun answer hanswer => ?_
  simp only [ha.idOf?_eq, ha.extends_eq]
  exact inheritsFrom_iff hc hanswer

end Alike

/-! ## The statement -/

/-- The hierarchy of declarations whose names are stable has one entity for each key that is declared
or referred to. The entity is published exactly if the last declaration of its key is. The relations
are those that the declarations state, each of them once. If no key is declared twice, the answers
to questions by name do not depend on the order of the declarations. -/
theorem build_yields_declared (hstable : ∀ d ∈ ds, ∀ name ∈ d.names, Name.Stable name)
    (policy : CyclePolicy) :
    ((build ds policy).entities.values.map fun e => Name.key e.name).Nodup ∧
    (∀ key, key ∈ ((build ds policy).entities.values.map fun e => Name.key e.name) ↔
      ∃ d ∈ ds, key ∈ d.names.map Name.key) ∧
    (∀ e ∈ (build ds policy).entities.values,
      e.isApi = (ClassLike.lastOf? ds (Name.key e.name)).any (·.isApi)) ∧
    (build ds policy).edges.Nodup ∧
    (∀ edge, edge ∈ (build ds policy).edges ↔ ∃ d ∈ ds, edge ∈ d.edges) ∧
    ((ds.map (·.key)).Nodup → ∀ ds', ds.Perm ds' →
      (∀ name, ((build ds' .ignore).idOf? name).map (build ds' .ignore).hasApiAncestor =
        ((build ds .ignore).idOf? name).map (build ds .ignore).hasApiAncestor) ∧
      (∀ name, ((build ds' .ignore).idOf? name).map (build ds' .ignore).hasApiDescendant =
        ((build ds .ignore).idOf? name).map (build ds .ignore).hasApiDescendant) ∧
      ∀ child ancestor, (build ds' .ignore).inheritsFrom child ancestor =
        (build ds .ignore).inheritsFrom child ancestor) := by
  have hh := holds_build hstable policy
  have hc := (arises_build ds policy).closed
  refine ⟨?_, fun key => ?_, fun e he => ?_, hc.nodup_edges, hh.mem_edges_iff, ?_⟩
  · rw [hc.map_key_values]
    exact KeyMap.nodup_keys _
  · rw [hc.map_key_values, KeyMap.mem_keys_iff, hh.contains_iff]
  · -- An entity is found under the key of its name.
    obtain ⟨⟨key, e⟩, hentry, rfl⟩ := List.mem_map.mp he
    have hfound := KeyMap.find?_of_mem hentry
    rw [← hh.isPublished_eq, hc.key_name key e hfound, isPublished, hfound, Option.any_some]
  · intro hnodup ds' hperm
    have hstable' : ∀ d ∈ ds', ∀ name ∈ d.names, Name.Stable name :=
      fun d hd => hstable d (hperm.mem_iff.mpr hd)
    have ha := (holds_build hstable .ignore).adds_of_perm (holds_build hstable' .ignore) hperm hnodup
    have hc := (arises_build ds .ignore).closed
    have hc' := (arises_build ds' .ignore).closed
    have hp := policy_build ds .ignore
    have hp' := policy_build ds' .ignore
    refine ⟨fun name => ?_, fun name => ?_, ha.inheritsFrom_eq hc hc' hp hp'⟩
    · rw [ha.idOf?_eq, funext (ha.hasApiAncestor_eq hc hc' hp hp')]
    · rw [ha.idOf?_eq, funext (ha.hasApiDescendant_eq hc hc' hp hp')]

/-- A class that extends one parent in two spellings, before the parent and its published interface
are declared. -/
private def forward : List ClassLike :=
  [{ name := "A", kind := .classKind, parents := ["B", "\\b"] },
    { name := "B", kind := .classKind, parents := ["A"], interfaces := ["I"] },
    { name := "I", kind := .interfaceKind, isApi := true }]

theorem build_yields_declared_forward :
    (∀ d ∈ forward, ∀ name ∈ d.names, Name.Stable name) ∧ (forward.map (·.key)).Nodup ∧
      forward.Perm forward.reverse ∧
      (build forward .ignore).edges.Nodup ∧
      (⟨"a", .inherits, "b"⟩ : Edge) ∈ (build forward .ignore).edges ∧
      ((build forward.reverse .ignore).idOf? "\\A").map
        (build forward.reverse .ignore).hasApiAncestor = some (.ok true) := by
  have hstable : ∀ d ∈ forward, ∀ name ∈ d.names, Name.Stable name := by decide +kernel
  have hnodup : (forward.map (·.key)).Nodup := by decide +kernel
  have hperm : forward.Perm forward.reverse := (List.reverse_perm forward).symm
  obtain ⟨-, -, -, hedges, hmem, hanswers⟩ := build_yields_declared hstable .ignore
  have hanswer : ((build forward .ignore).idOf? "\\A").map
      (build forward .ignore).hasApiAncestor = some (.ok true) := by decide +kernel
  refine ⟨hstable, hnodup, hperm, hedges, (hmem _).mpr (by decide +kernel), ?_⟩
  exact ((hanswers hnodup forward.reverse hperm).1 "\\A").trans hanswer

end Hierarchy

end VersionBump.Php
