import VersionBump.Proofs.DeclaredHierarchies

/-!
# Repeated references

A name is looked up under its key, but an entity that is created for it is put in under the key of
its normal form. The two are the same exactly for stable names. So a name that is known or stable is
found again, and referring to it again changes nothing; any other name is not found again, and each
time that it is referred to it replaces what stands under the key of its normal form.

* `Hierarchy.Remembers` is the property of a hierarchy that it finds a name again.
* `Hierarchy.remembers_iff` says when it does, and `Hierarchy.findOrCreate_forgotten` what happens
  otherwise.
* `Hierarchy.isPublished_refer_eq_false_iff` says which references take a publication away, and
  `Hierarchy.isPublished_of_declared` that stable names leave a published declaration alone.
* `Hierarchy.findOrCreate_repeated` puts these together, and `Hierarchy.reference_clears_publication`
  is a reference that takes the publication of a declared class away.
-/

namespace VersionBump.Php

namespace Hierarchy

variable {h : Hierarchy} {name : String} {kind : ClassKind}

/-! ## Finding a name again -/

/-- What has been found or created for a name is found again, and finding or creating it again, of
whatever kind, changes nothing. -/
structure Remembers (h : Hierarchy) (name : String) (kind : ClassKind) : Prop where
  found : (h.findOrCreate name kind).2.idOf? name = some (h.findOrCreate name kind).1
  entity : ∃ e, (h.findOrCreate name kind).2.entities.find? (h.findOrCreate name kind).1 = some e ∧
    (h.findOrCreate name kind).2.entity? name = some e
  again : ∀ kind', (h.findOrCreate name kind).2.findOrCreate name kind' = h.findOrCreate name kind

/-- A known name is found again. -/
theorem remembers_of_contains (hname : h.entities.contains (Name.key name) = true) :
    h.Remembers name kind := by
  have hcreate : ∀ kind', h.findOrCreate name kind' = (Name.key name, h) :=
    fun _ => findOrCreate_of_contains hname
  obtain ⟨e, he⟩ := Option.isSome_iff_exists.mp hname
  refine ⟨?_, ⟨e, ?_⟩, fun kind' => ?_⟩ <;> rw [hcreate kind]
  · exact idOf?_of_contains hname
  · exact ⟨he, he⟩
  · exact hcreate kind'

/-- A stable name is found again, since its entity is put in where it is looked up. -/
theorem remembers_of_stable (hname : Name.Stable name) : h.Remembers name kind := by
  have hknown : (h.findOrCreate name kind).2.entities.contains (Name.key name) = true :=
    ((adds_findOrCreate hname h kind).contains_iff _).mpr (.inl List.mem_cons_self)
  have hid : (h.findOrCreate name kind).1 = Name.key name := findOrCreate_fst hname
  obtain ⟨e, he⟩ := Option.isSome_iff_exists.mp hknown
  refine ⟨?_, ⟨e, hid ▸ he, he⟩, fun kind' => ?_⟩
  · rw [idOf?_of_contains hknown, hid]
  · rw [findOrCreate_of_contains hknown, ← hid]

/-- A name that is neither known nor stable remains unknown after an entity was created for it. -/
theorem idOf?_findOrCreate_forgotten (hknown : h.idOf? name = none) (hname : ¬ Name.Stable name)
    (kind : ClassKind) : (h.findOrCreate name kind).2.idOf? name = none := by
  rw [idOf?_eq_none_iff] at hknown
  -- The entity is put in under another key than the one that is looked up.
  have hkey : Name.key name ≠ Name.key (Name.normalize name) :=
    fun heq => hname ((Name.key_normalize_iff name).mp heq.symm)
  rw [findOrCreate_of_not_contains hknown, idOf?_eq_none_iff, addEntity, KeyMap.contains,
    KeyMap.find?_insert, if_neg hkey]
  exact hknown

/-- A name that is neither known nor stable replaces its entity each time. -/
theorem findOrCreate_forgotten (hknown : h.idOf? name = none) (hname : ¬ Name.Stable name)
    (kind kind' : ClassKind) :
    (h.findOrCreate name kind).2.findOrCreate name kind' = h.findOrCreate name kind' := by
  have hagain := idOf?_findOrCreate_forgotten hknown hname kind
  rw [idOf?_eq_none_iff] at hknown hagain
  rw [findOrCreate_of_not_contains hagain, findOrCreate_of_not_contains hknown,
    findOrCreate_of_not_contains hknown]
  simp only [addEntity, KeyMap.insert_insert]

/-- A name is found again exactly if it is known already or stable. -/
theorem remembers_iff (h : Hierarchy) (name : String) (kind : ClassKind) :
    h.Remembers name kind ↔ (h.idOf? name).isSome ∨ Name.Stable name := by
  constructor
  · intro hr
    by_contra hnone
    obtain ⟨hknown, hname⟩ := not_or.mp hnone
    rw [Option.not_isSome_iff_eq_none] at hknown
    exact nomatch (idOf?_findOrCreate_forgotten hknown hname kind).symm.trans hr.found
  · rintro (hknown | hname)
    · cases hname : h.entities.contains (Name.key name) with
      | true => exact remembers_of_contains hname
      | false =>
        rw [idOf?_eq_none_iff.mpr hname] at hknown
        exact nomatch hknown
    · exact remembers_of_stable hname

/-! ## Publication -/

/-- Relating entities publishes nothing and hides nothing. -/
theorem isPublished_relate (h : Hierarchy) (e : Edge) (key : String) :
    (h.relate e).isPublished key = h.isPublished key := by
  unfold relate
  split <;> rfl

/-- A reference takes the publication of an entity away exactly if its name is neither known nor
stable and the entity stands under the key of its normal form. -/
theorem isPublished_refer_eq_false_iff {key : String} (hkey : h.isPublished key = true)
    (id : String) (relation : Relation) (kind : ClassKind) (name : String) :
    (h.refer id relation kind name).isPublished key = false ↔
      h.idOf? name = none ∧ ¬ Name.Stable name ∧ key = Name.key (Name.normalize name) := by
  rw [refer, isPublished_relate, idOf?_eq_none_iff]
  cases hname : h.entities.contains (Name.key name) with
  | true => simp [findOrCreate_of_contains hname, hkey]
  | false =>
    -- A published entity is known, so it does not stand under the key of an unknown stable name.
    have hstable : key = Name.key (Name.normalize name) → ¬ Name.Stable name := by
      rintro rfl hs
      rw [(Name.key_normalize_iff name).mpr hs, isPublished_of_not_contains hname] at hkey
      exact Bool.false_ne_true hkey
    rw [findOrCreate_of_not_contains hname, addEntity, isPublished_insert]
    split
    case isTrue heq => exact iff_of_true rfl ⟨rfl, hstable heq, heq⟩
    case isFalse hne => exact iff_of_false (by simp [hkey]) fun h => hne h.2.2

/-- Declarations of other keys leave the publication of a key alone. -/
theorem isPublished_foldl_declare {ds : List ClassLike} {key : String}
    (hstable : ∀ d ∈ ds, ∀ name ∈ d.names, Name.Stable name) (hkeys : ∀ d ∈ ds, d.key ≠ key)
    (h : Hierarchy) : (ds.foldl declare h).isPublished key = h.isPublished key := by
  induction ds generalizing h with
  | nil => rfl
  | cons d ds ih =>
    obtain ⟨hfirst, hrest⟩ := List.forall_mem_cons.mp hstable
    obtain ⟨hkey, hothers⟩ := List.forall_mem_cons.mp hkeys
    rw [List.foldl_cons, ih hrest hothers, isPublished_declare hfirst, if_neg hkey.symm]

/-- A published declaration that is the last of its key is published in the end, if the names that
it and the later declarations write are stable. -/
theorem isPublished_of_declared {d : ClassLike} {back : List ClassLike} (hpublished : d.isApi = true)
    (hstable : ∀ d' ∈ d :: back, ∀ name ∈ d'.names, Name.Stable name)
    (hlast : ∀ d' ∈ back, d'.key ≠ d.key) (front : List ClassLike) (policy : CyclePolicy) :
    (build (front ++ d :: back) policy).isPublished d.key = true := by
  obtain ⟨hfirst, hrest⟩ := List.forall_mem_cons.mp hstable
  rw [build, List.foldl_append, List.foldl_cons, isPublished_foldl_declare hrest hlast,
    isPublished_declare hfirst, if_pos rfl, hpublished]

/-! ## The statement -/

/-- A name is found again, and nothing changes by it, exactly if it is known already or stable. Any
other name replaces its entity, and only a reference by such a name takes the publication of an
entity away. So a published declaration remains published while later ones write stable names. -/
theorem findOrCreate_repeated (h : Hierarchy) (name : String) (kind : ClassKind)
    (front back : List ClassLike) (d : ClassLike) (policy : CyclePolicy) :
    (h.Remembers name kind ↔ (h.idOf? name).isSome ∨ Name.Stable name) ∧
    (h.idOf? name = none → ¬ Name.Stable name → ∀ kind',
      (h.findOrCreate name kind).2.findOrCreate name kind' = h.findOrCreate name kind') ∧
    (∀ id relation key, h.isPublished key = true →
      ((h.refer id relation kind name).isPublished key = false ↔
        h.idOf? name = none ∧ ¬ Name.Stable name ∧ key = Name.key (Name.normalize name))) ∧
    (d.isApi = true → (∀ d' ∈ d :: back, ∀ name ∈ d'.names, Name.Stable name) →
      (∀ d' ∈ back, d'.key ≠ d.key) →
      (build (front ++ d :: back) policy).isPublished d.key = true) := by
  refine ⟨remembers_iff h name kind, fun hknown hname kind' => ?_, fun id relation key hkey => ?_,
    fun hpublished hstable hlast => ?_⟩
  · exact findOrCreate_forgotten hknown hname kind kind'
  · exact isPublished_refer_eq_false_iff hkey id relation kind name
  · exact isPublished_of_declared hpublished hstable hlast front policy

/-- A published class, and a class that extends it, written with the given name. -/
private def extending (parent : String) : List ClassLike :=
  [{ name := "Foo", kind := .classKind, isApi := true },
    { name := "Bar", kind := .classKind, parents := [parent] }]

theorem findOrCreate_repeated_respelled :
    (∀ d ∈ extending "\\FOO", ∀ name ∈ d.names, Name.Stable name) ∧
      (empty .ignore).Remembers "\\FOO" .classKind ∧
      (build (extending "\\FOO") .ignore).isPublished "foo" = true ∧
      (build (extending "\\FOO") .ignore).idOf? "\\ Foo" = none ∧ ¬ Name.Stable "\\ Foo" ∧
      ((build (extending "\\FOO") .ignore).findOrCreate "\\ Foo" .classKind).2.findOrCreate
        "\\ Foo" .traitKind = (build (extending "\\FOO") .ignore).findOrCreate "\\ Foo" .traitKind ∧
      ((build (extending "\\FOO") .ignore).refer "bar" .inherits .classKind "\\ Foo").isPublished
        "foo" = false := by
  have hstable : ∀ d ∈ extending "\\FOO", ∀ name ∈ d.names, Name.Stable name := by decide +kernel
  have hunstable : ¬ Name.Stable "\\ Foo" := by decide +kernel
  have hunknown : (build (extending "\\FOO") .ignore).idOf? "\\ Foo" = none := by decide +kernel
  -- A name in another spelling is stable, so the parent is found.
  obtain ⟨hiff, -, -, hlast⟩ := findOrCreate_repeated (empty .ignore) "\\FOO" .classKind []
    [{ name := "Bar", kind := .classKind, parents := ["\\FOO"] }]
    { name := "Foo", kind := .classKind, isApi := true } .ignore
  have hpublished : (build (extending "\\FOO") .ignore).isPublished "foo" = true :=
    hlast rfl hstable (by decide +kernel)
  -- The blank that the separator hides is left in front of the normal form.
  obtain ⟨-, hforgotten, hcleared, -⟩ := findOrCreate_repeated (build (extending "\\FOO") .ignore)
    "\\ Foo" .classKind [] [] { name := "Foo", kind := .classKind, isApi := true } .ignore
  refine ⟨hstable, hiff.mpr (.inr (by decide +kernel)), hpublished, hunknown, hunstable,
    hforgotten hunknown hunstable .traitKind, ?_⟩
  exact (hcleared "bar" .inherits "foo" hpublished).mpr ⟨hunknown, hunstable, by decide +kernel⟩

/-- A blank behind the leading separator makes a name that is not found again. Its entity changes
from a class to an interface, and as the parent of a class it takes the publication of the class
`Foo` away. -/
theorem reference_clears_publication :
    ¬ (empty .ignore).Remembers "\\ Foo" .classKind ∧
      ((empty .ignore).findOrCreate "\\ Foo" .classKind).2.entity? "\\ Foo" = none ∧
      (((empty .ignore).findOrCreate "\\ Foo" .classKind).2.entity? "Foo").map (·.kind) =
        some .classKind ∧
      ((((empty .ignore).findOrCreate "\\ Foo" .classKind).2.findOrCreate "\\ Foo"
        .interfaceKind).2.entity? "Foo").map (·.kind) = some .interfaceKind ∧
      (build (extending "\\ Foo") .ignore).isPublished "foo" = false := by
  refine ⟨fun hr => ?_, by decide +kernel, by decide +kernel, by decide +kernel, by decide +kernel⟩
  exact absurd hr.found (by decide +kernel)

end Hierarchy

end VersionBump.Php
