import VersionBump.Proofs.HierarchyOrigins
import VersionBump.Proofs.NormalForms

/-!
# First mentions

While a hierarchy is built, the first mention of a name creates its entity, and later mentions find
it. So the name and the kind of an entity are those of the first mention, be it a declaration or a
reference that comes before it. A declaration decides its own entity only if the references before
it, if there are any, begin with one of the same spelling that implies the same kind.

* `Mention` is a written name with the kind that it implies, and `ClassLike.mentions` lists those of
  a declaration in the order in which they are entered.
* `Mention.firstOf?` is what the first mention of a key says, and `Hierarchy.described?` what a
  hierarchy knows. `Hierarchy.described?_findOrCreate` ties the two for one mention,
  `Hierarchy.described?_declare` for a declaration and `Hierarchy.described?_build` for all.
* `Hierarchy.build_describes_first` is the statement, and `Hierarchy.reference_describes_declared` a
  declaration that does not decide its entity.
-/

namespace VersionBump.Php

/-! ## Mentions -/

/-- The kind that a reference of a declaration implies. -/
def Relation.impliedKind (kind : ClassKind) : Relation → ClassKind
  | .inherits => Hierarchy.parentKind kind
  | .implements => .interfaceKind
  | .uses => .traitKind

/-- A written name with the kind that is given or implied for its entity. -/
structure Mention where
  name : String
  kind : ClassKind
  deriving DecidableEq, Repr

namespace Mention

/-- The key under which an entity of the mention is put in. -/
def key (m : Mention) : String := Name.key (Name.normalize m.name)

/-- The name and the kind of an entity that the mention creates. -/
def description (m : Mention) : String × ClassKind := (Name.normalize m.name, m.kind)

/-- What the first mention of a key says. -/
def firstOf? (ms : List Mention) (key : String) : Option (String × ClassKind) :=
  (ms.find? (·.key == key)).map (·.description)

/-- Of two lists of mentions the first comes first. -/
theorem firstOf?_append (ms ms' : List Mention) (key : String) :
    firstOf? (ms ++ ms') key = (firstOf? ms key).or (firstOf? ms' key) := by
  rw [firstOf?, List.find?_append, Option.map_or, firstOf?, firstOf?]

/-- One more mention in front decides if it has the key. -/
theorem firstOf?_cons (m : Mention) (ms : List Mention) (key : String) :
    firstOf? (m :: ms) key = if m.key = key then some m.description else firstOf? ms key := by
  rw [firstOf?, List.find?_cons]
  by_cases hkey : m.key = key
  · simp [hkey]
  · have hne : (m.key == key) = false := beq_eq_false_iff_ne.mpr hkey
    rw [hne, if_neg hkey, firstOf?]

end Mention

namespace ClassLike

/-- The declaration as a mention of its own name. -/
def mention (d : ClassLike) : Mention := ⟨d.name, d.kind⟩

/-- What a declaration refers to, as mentions. -/
def referred (d : ClassLike) : List Mention :=
  d.references.map fun r => ⟨r.2, r.1.impliedKind d.kind⟩

/-- The mentions of a declaration, its own name first. -/
def mentions (d : ClassLike) : List Mention := d.mention :: d.referred

end ClassLike

/-- Of the names that some declarations write, those that belong to a key are stable. -/
def StableAt (ds : List ClassLike) (key : String) : Prop :=
  ∀ d ∈ ds, ∀ m ∈ d.mentions, m.key = key → Name.Stable m.name

instance (ds : List ClassLike) (key : String) : Decidable (StableAt ds key) :=
  inferInstanceAs (Decidable (∀ d ∈ ds, ∀ m ∈ d.mentions, m.key = key → Name.Stable m.name))

namespace Hierarchy

variable {h : Hierarchy} {key : String} {d : ClassLike} {ds : List ClassLike}

/-- The name and the kind of the entity under a key. -/
def described? (h : Hierarchy) (key : String) : Option (String × ClassKind) :=
  (h.entities.find? key).map fun e => (e.name, e.kind)

/-! ## One mention -/

/-- Putting in an entity describes its key and no other. -/
private theorem described?_insert (h : Hierarchy) (id : String) (e : Entity) (key : String) :
    ({ h with entities := h.entities.insert id e } : Hierarchy).described? key =
      if key = id then some (e.name, e.kind) else h.described? key := by
  simp only [described?, KeyMap.find?_insert]
  split <;> rfl

/-- A key is described exactly if it is known. -/
private theorem isSome_described? (h : Hierarchy) (key : String) :
    (h.described? key).isSome = h.entities.contains key := by
  rw [described?, Option.isSome_map, KeyMap.contains]

/-- A mention describes its key unless the key has been described before. -/
theorem described?_findOrCreate (h : Hierarchy) (m : Mention)
    (hstable : m.key = key → Name.Stable m.name) :
    (h.findOrCreate m.name m.kind).2.described? key =
      (h.described? key).or (Mention.firstOf? [m] key) := by
  rw [Mention.firstOf?_cons]
  cases hknown : h.entities.contains (Name.key m.name) with
  | true =>
    rw [findOrCreate_of_contains hknown]
    split
    case isTrue hkey =>
      -- The key of a stable name is the one that it is looked up under.
      have hname : Name.key m.name = key := by
        rw [← (Name.key_normalize_iff m.name).mpr (hstable hkey)]
        exact hkey
      rw [hname, ← isSome_described?] at hknown
      exact (Option.or_of_isSome hknown).symm
    case isFalse => exact (Option.or_none).symm
  | false =>
    rw [findOrCreate_of_not_contains hknown, addEntity, described?_insert]
    split
    case isTrue hkey =>
      have hmention : m.key = key := hkey.symm
      have hname : Name.key m.name = key := by
        rw [hkey, (Name.key_normalize_iff m.name).mpr (hstable hmention)]
      rw [hname, ← isSome_described?, Option.isSome_eq_false_iff, Option.isNone_iff_eq_none]
        at hknown
      rw [hknown, if_pos hmention]
      rfl
    case isFalse hkey =>
      have hmention : m.key ≠ key := fun heq => hkey heq.symm
      rw [if_neg hmention]
      exact (Option.or_none).symm

/-- Marking an entity does not change its description. -/
theorem described?_setApi (h : Hierarchy) (id : String) (isApi : Bool) (key : String) :
    (h.setApi id isApi).described? key = h.described? key := by
  unfold setApi
  split
  case h_1 e he =>
    rw [described?_insert]
    split
    case isTrue hkey => rw [hkey, described?, he, Option.map_some]
    case isFalse => rfl
  case h_2 => rfl

/-- Relating entities does not change their descriptions. -/
theorem described?_relate (h : Hierarchy) (e : Edge) (key : String) :
    (h.relate e).described? key = h.described? key := by
  unfold relate
  split <;> rfl

/-! ## One declaration -/

/-- References describe the keys that have not been described before. -/
private theorem described?_foldl_refer (id : String) (relation : Relation) (kind : ClassKind)
    (names : List String)
    (hstable : ∀ name ∈ names, Mention.key ⟨name, kind⟩ = key → Name.Stable name) :
    (names.foldl (fun h n => h.refer id relation kind n) h).described? key =
      (h.described? key).or (Mention.firstOf? (names.map fun n => ⟨n, kind⟩) key) := by
  induction names generalizing h with
  | nil => exact (Option.or_none).symm
  | cons name names ih =>
    obtain ⟨hname, hrest⟩ := List.forall_mem_cons.mp hstable
    have hfirst : (h.refer id relation kind name).described? key =
        (h.described? key).or (Mention.firstOf? [⟨name, kind⟩] key) := by
      rw [refer, described?_relate]
      exact described?_findOrCreate h ⟨name, kind⟩ hname
    rw [List.foldl_cons, ih hrest, hfirst, Option.or_assoc, ← Mention.firstOf?_append]
    rfl

/-- A declaration describes the keys that it mentions and that have not been described before. -/
theorem described?_declare (h : Hierarchy)
    (hstable : ∀ m ∈ d.mentions, m.key = key → Name.Stable m.name) :
    (h.declare d).described? key = (h.described? key).or (Mention.firstOf? d.mentions key) := by
  obtain ⟨hown, hreferred⟩ := List.forall_mem_cons.mp hstable
  -- The references are entered relation by relation, in the order in which they are listed.
  have hlists : d.referred = d.parents.map (⟨·, parentKind d.kind⟩) ++
      d.interfaces.map (⟨·, .interfaceKind⟩) ++ d.traits.map (⟨·, .traitKind⟩) := by
    simp only [ClassLike.referred, ClassLike.references, List.map_append, List.map_map,
      Function.comp_def, Relation.impliedKind]
  rw [hlists] at hreferred
  simp only [List.forall_mem_append, List.forall_mem_map] at hreferred
  obtain ⟨⟨hparents, hinterfaces⟩, htraits⟩ := hreferred
  have hcreated := described?_findOrCreate h d.mention hown
  rw [ClassLike.mention] at hcreated
  rw [declare, described?_foldl_refer _ _ _ _ htraits, described?_foldl_refer _ _ _ _ hinterfaces,
    described?_foldl_refer _ _ _ _ hparents, described?_setApi, hcreated]
  simp only [Option.or_assoc, ← Mention.firstOf?_append]
  rw [ClassLike.mentions, hlists]
  simp only [List.append_assoc, List.singleton_append]
  rfl

/-! ## All declarations -/

/-- A hierarchy describes a key as its first mention does. -/
theorem described?_build (hstable : StableAt ds key) (policy : CyclePolicy) :
    (build ds policy).described? key = Mention.firstOf? (ds.flatMap (·.mentions)) key := by
  induction ds using List.reverseRecOn with
  | nil => rfl
  | append_singleton ds d ih =>
    have hsnoc : build (ds ++ [d]) policy = (build ds policy).declare d := by
      rw [build, List.foldl_append]
      rfl
    have hlast : ∀ m ∈ d.mentions, m.key = key → Name.Stable m.name :=
      hstable d (List.mem_append_right _ List.mem_cons_self)
    rw [hsnoc, described?_declare _ hlast,
      ih fun d' hd' => hstable d' (List.mem_append_left _ hd'), ← Mention.firstOf?_append,
      List.flatMap_append, List.flatMap_singleton]

/-- Where a key is not declared, only references mention it. -/
private theorem firstOf?_mentions {ds : List ClassLike} (hstable : StableAt ds key)
    (hkeys : ∀ d ∈ ds, d.key ≠ key) :
    Mention.firstOf? (ds.flatMap (·.mentions)) key =
      Mention.firstOf? (ds.flatMap (·.referred)) key := by
  induction ds with
  | nil => rfl
  | cons d ds ih =>
    obtain ⟨hfirst, hrest⟩ := List.forall_mem_cons.mp hstable
    obtain ⟨hkey, hothers⟩ := List.forall_mem_cons.mp hkeys
    have hown : d.mention.key ≠ key := by
      intro heq
      have hname : Name.Stable d.name := hfirst d.mention List.mem_cons_self heq
      exact hkey (((Name.key_normalize_iff d.name).mpr hname).symm.trans heq)
    rw [List.flatMap_cons, List.flatMap_cons, Mention.firstOf?_append, Mention.firstOf?_append,
      ih hrest hothers, ClassLike.mentions, Mention.firstOf?_cons, if_neg hown]

/-! ## The statement -/

/-- If no key is declared twice, an entity that is declared has the name and the kind of the first
reference to it by an earlier declaration, and those of its declaration if there is no such
reference. So the declaration decides exactly if it agrees with that reference. An entity that is
never declared has the name and the kind of the first reference. All this asks of the names that
belong to the key to be stable. -/
theorem build_describes_first (front back : List ClassLike) (d : ClassLike)
    (hnodup : ((front ++ d :: back).map (·.key)).Nodup) (hname : Name.Stable d.name)
    (hstable : StableAt (front ++ d :: back) d.key) (policy : CyclePolicy) :
    (build (front ++ d :: back) policy).described? d.key =
      some ((Mention.firstOf? (front.flatMap (·.referred)) d.key).getD (d.fqn, d.kind)) ∧
    ((build (front ++ d :: back) policy).described? d.key = some (d.fqn, d.kind) ↔
      ∀ said, Mention.firstOf? (front.flatMap (·.referred)) d.key = some said →
        said = (d.fqn, d.kind)) ∧
    (∀ key, StableAt (front ++ d :: back) key → (∀ d' ∈ front ++ d :: back, d'.key ≠ key) →
      (build (front ++ d :: back) policy).described? key =
        Mention.firstOf? ((front ++ d :: back).flatMap (·.referred)) key) := by
  have hfront : ∀ d' ∈ front, d'.key ≠ d.key := by
    rw [List.map_append, List.map_cons] at hnodup
    intro d' hd' heq
    exact (List.nodup_append.mp hnodup).2.2 d'.key (List.mem_map_of_mem hd') d.key
      List.mem_cons_self heq
  have hown : d.mention.key = d.key := (Name.key_normalize_iff d.name).mpr hname
  have hdescribed : (build (front ++ d :: back) policy).described? d.key =
      some ((Mention.firstOf? (front.flatMap (·.referred)) d.key).getD (d.fqn, d.kind)) := by
    rw [described?_build hstable, List.flatMap_append, List.flatMap_cons, Mention.firstOf?_append,
      firstOf?_mentions (fun d' hd' => hstable d' (List.mem_append_left _ hd')) hfront,
      ClassLike.mentions, List.cons_append, Mention.firstOf?_cons, if_pos hown]
    cases Mention.firstOf? (front.flatMap (·.referred)) d.key <;> rfl
  refine ⟨hdescribed, ?_, fun key hkey hnone => ?_⟩
  · rw [hdescribed]
    cases Mention.firstOf? (front.flatMap (·.referred)) d.key <;> simp
  · rw [described?_build hkey, firstOf?_mentions hkey hnone]

/-- A class with a parent that is written in lower case, and an interface that it declares to
implement. -/
private def referring : ClassLike :=
  { name := "Child", kind := .classKind, parents := ["\\base"], interfaces := ["Contract"] }

/-- The parent, as a declaration of the given kind. -/
private def declared (kind : ClassKind) : ClassLike := { name := "Base", kind }

theorem build_describes_first_forward :
    ([referring, declared .classKind].map (·.key)).Nodup ∧ Name.Stable "Base" ∧
      StableAt [referring, declared .classKind] "base" ∧
      (build [referring, declared .classKind] .ignore).described? "base" =
        some ("base", .classKind) ∧
      (build [declared .traitKind, referring] .ignore).described? "base" =
        some ("Base", .traitKind) ∧
      (build [referring, declared .classKind] .ignore).described? "contract" =
        some ("Contract", .interfaceKind) := by
  have hnodup : ([referring, declared .classKind].map (·.key)).Nodup := by decide +kernel
  have hname : Name.Stable "Base" := by decide +kernel
  have hstable : StableAt [referring, declared .classKind] "base" := by decide +kernel
  -- Behind the reference the entity is spelled as it was referred to.
  obtain ⟨hforward, -, hundeclared⟩ :=
    build_describes_first [referring] [] (declared .classKind) hnodup hname hstable .ignore
  have hcontract : StableAt [referring, declared .classKind] "contract" := by decide +kernel
  have hnone : ∀ d ∈ [referring, declared .classKind], d.key ≠ "contract" := by decide +kernel
  -- In front of the reference the declaration decides, and no earlier reference is in its way.
  obtain ⟨-, hdecides, -⟩ := build_describes_first [] [referring] (declared .traitKind)
    (by decide +kernel) hname (by decide +kernel) .ignore
  exact ⟨hnodup, hname, hstable, hforward.trans (by decide +kernel), hdecides.mpr nofun,
    (hundeclared "contract" hcontract hnone).trans (by decide +kernel)⟩

/-- A declaration does not decide its entity in general: behind a reference to it, an interface is
entered as a class and in the spelling of the reference. -/
theorem reference_describes_declared :
    (build [referring, declared .interfaceKind] .ignore).described? "base" =
        some ("base", .classKind) ∧
      ¬ ∀ ds policy, (ds.map ClassLike.key).Nodup → ∀ d ∈ ds,
        (build ds policy).described? d.key = some (d.fqn, d.kind) := by
  have hforward : (build [referring, declared .interfaceKind] .ignore).described? "base" =
      some ("base", .classKind) := by decide +kernel
  refine ⟨hforward, fun hdecides => ?_⟩
  have hdeclared := hdecides [referring, declared .interfaceKind] .ignore (by decide +kernel)
    (declared .interfaceKind) (List.mem_cons_of_mem _ List.mem_cons_self)
  have hkey : (declared .interfaceKind).key = "base" := by decide +kernel
  rw [hkey, hforward] at hdeclared
  exact absurd hdeclared (by decide +kernel)

end Hierarchy

end VersionBump.Php
