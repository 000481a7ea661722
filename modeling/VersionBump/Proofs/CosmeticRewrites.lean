import VersionBump.Proofs.PublishedChanges
import VersionBump.Proofs.UnionNames

/-!
# Cosmetic rewrites

Names may be written in another case or order, annotations may list their alternatives in another
order, parameters may be renamed, and private members, values of constants and defaults of
properties may change at will: no comparison finds any of it, whatever the hierarchy.

* `Method.Cosmetic`, `Property.Cosmetic`, `Constant.Cosmetic` and `ClassLike.Cosmetic` say when a
  declaration differs from another in such ways only, and `Registry.Cosmetic` says it of registries.
* `MemberFamily.apply_views` and `MemberFamily.apply_allViews` are the families of members.
* `differences_of_cosmetic` is the comparison of registries.
-/

namespace VersionBump.Php

/-! ## Declarations that are rewritten -/

/-- Annotations that name one union of types in one place, or are both missing. -/
def SameAnnotation : Option TypeDecl → Option TypeDecl → Prop
  | none, none => True
  | some old, some new => old.same new = true ∧ old.source = new.source
  | _, _ => False

/-- Lists that name the same class-likes, in any spelling and order. -/
def SameNames (old new : List String) : Prop := (Name.set old).keys = (Name.set new).keys

instance (old new : List String) : Decidable (SameNames old new) :=
  inferInstanceAs (Decidable (_ = _))

/-- A parameter that is renamed at most. -/
structure Param.Cosmetic (old new : Param) : Prop where
  type : SameAnnotation old.type new.type
  default : old.default = new.default
  variadic : old.variadic = new.variadic

/-- A method whose names are respelled at most. -/
structure Method.Cosmetic (old new : Method) : Prop where
  isApi : old.isApi = new.isApi
  visibility : old.visibility = new.visibility
  isStatic : old.isStatic = new.isStatic
  isFinal : old.isFinal = new.isFinal
  isAbstract : old.isAbstract = new.isAbstract
  params : List.Forall₂ Param.Cosmetic old.params new.params
  returnType : SameAnnotation old.returnType new.returnType
  throws : SameNames old.throws new.throws

/-- A property of which the default or the spelling changes at most. -/
structure Property.Cosmetic (old new : Property) : Prop where
  isApi : old.isApi = new.isApi
  visibility : old.visibility = new.visibility
  isStatic : old.isStatic = new.isStatic
  type : SameAnnotation old.type new.type

/-- A constant of which the value changes at most. -/
structure Constant.Cosmetic (old new : Constant) : Prop where
  isApi : old.isApi = new.isApi
  visibility : old.visibility = new.visibility

/-- Every annotation is the same as itself. -/
theorem SameAnnotation.refl (d : Option TypeDecl) : SameAnnotation d d := by
  cases d with
  | none => trivial
  | some d => exact ⟨beq_self_eq_true _, rfl⟩

/-- Every method is a rewrite of itself. -/
theorem Method.Cosmetic.refl (m : Method) : m.Cosmetic m where
  isApi := rfl
  visibility := rfl
  isStatic := rfl
  isFinal := rfl
  isAbstract := rfl
  params := List.forall₂_same.mpr fun param _ => ⟨.refl param.type, rfl, rfl⟩
  returnType := .refl m.returnType
  throws := rfl

/-- Every property is a rewrite of itself. -/
theorem Property.Cosmetic.refl (x : Property) : x.Cosmetic x := ⟨rfl, rfl, rfl, .refl x.type⟩

/-- Every constant is a rewrite of itself. -/
theorem Constant.Cosmetic.refl (k : Constant) : k.Cosmetic k := ⟨rfl, rfl⟩

/-- The keys of the shared members of a class-like. -/
def MemberFamily.sharedKeys {α : Type} (f : MemberFamily α) (c : ClassLike) : List String :=
  ((f.members c).filter fun m => (f.visibility m).isShared).map f.key

/-- Class-likes with the same keys of shared members, where all shared members of one key are
alike. Private members do not count. -/
structure MemberFamily.Cosmetic {α : Type} (f : MemberFamily α) (alike : α → α → Prop)
    (old new : ClassLike) : Prop where
  keys : ∀ key, key ∈ f.sharedKeys old ↔ key ∈ f.sharedKeys new
  alike : ∀ m ∈ f.members old, ∀ n ∈ f.members new, f.Shared m → f.Shared n →
    f.key m = f.key n → alike m n

/-- A class-like whose names are respelled at most, apart from its private members, the values of
its constants and the defaults of its properties. -/
structure ClassLike.Cosmetic (old new : ClassLike) : Prop where
  kind : old.kind = new.kind
  isApi : old.isApi = new.isApi
  isFinal : old.isFinal = new.isFinal
  isAbstract : old.isAbstract = new.isAbstract
  parents : SameNames old.parents new.parents
  interfaces : SameNames old.interfaces new.interfaces
  traits : SameNames old.traits new.traits
  methods : methodFamily.Cosmetic Method.Cosmetic old new
  properties : propertyFamily.Cosmetic Property.Cosmetic old new
  constants : constantFamily.Cosmetic Constant.Cosmetic old new

end VersionBump.Php

namespace VersionBump

/-- Registries of the same keys, where each class-like is a rewrite of the one under its key. The
files may be others. -/
structure Registry.Cosmetic (before after : Registry Php.ClassLike) : Prop where
  keys : before.entries.keys = after.entries.keys
  classLikes : ∀ context key b a, before.find? context key = some b →
    after.find? context key = some a → b.value.Cosmetic a.value

namespace Php

/-! ## Members -/

section Parts

variable (p : Pair) (target : String) (location : Path)

/-- Annotations that name one union of types in one place do not differ. -/
theorem compareTypes_eq_nil (slot : TypeSlot) (kind : PhpChange) {old new : Option TypeDecl}
    (h : SameAnnotation old new) : compareTypes p slot kind target location old new = [] := by
  cases old with
  | none =>
    cases new with
    | none => rfl
    | some new => exact h.elim
  | some old =>
    cases new with
    | none => exact h.elim
    | some new =>
      obtain ⟨hsame, hsource⟩ := h
      have hmove : typeMove? old.source new.source = none := by
        rw [hsource]
        cases new.source <;> rfl
      simp [compareTypes, hsame, hmove]

/-- A visibility does not differ from itself. -/
theorem compareVisibility_self (decreased increased : PhpChange) (v : Visibility) :
    compareVisibility p decreased increased target location v v = [] := by
  simp [compareVisibility]

/-- A flag does not differ from itself. -/
theorem compareFlag_self (raised dropped : Option PhpChange) (b : Bool) :
    compareFlag p raised dropped target location b b = [] := by
  cases b <;> rfl

/-- Parameters that are renamed do not differ. -/
theorem compareParams_eq_nil (method : String) {old new : List Param}
    (h : List.Forall₂ Param.Cosmetic old new) : compareParams p method location old new = [] := by
  -- The lists are walked in step, and neither has a parameter left over.
  induction h with
  | nil => simp [compareParams]
  | @cons o n olds news hparam _ ih =>
    have hoptional : o.isOptional = n.isOptional := by
      rw [Param.isOptional, Param.isOptional, hparam.default, hparam.variadic]
    have hhead : compareParam p method location o n = [] := by
      cases hd : n.default <;>
        simp [compareParam, compareTypes_eq_nil _ _ _ _ _ hparam.type, hoptional, compareFlag_self,
          hparam.default, hd]
    simp only [compareParams, hhead, ih, List.append_nil]

/-- Return types that are respelled do not differ. -/
theorem compareReturn_eq_nil {old new : Option TypeDecl} (h : SameAnnotation old new) :
    compareReturn p target location old new = [] := by
  have htypes := compareTypes_eq_nil p target location .returnValue .returnTypeChanged h
  cases old with
  | none =>
    cases new with
    | none => exact htypes
    | some new => exact h.elim
  | some old =>
    cases new with
    | none => exact h.elim
    | some new => exact htypes

variable {p target location}

/-- Naming the same class-likes goes both ways. -/
theorem SameNames.symm {old new : List String} (h : SameNames old new) : SameNames new old :=
  Eq.symm h

/-- Lists of the same names have the same keys. -/
theorem SameNames.contains_eq {old new : List String} (h : SameNames old new) (key : String) :
    (Name.set old).contains key = (Name.set new).contains key := by
  rw [Bool.eq_iff_iff, ← KeyMap.mem_keys_iff, ← KeyMap.mem_keys_iff, show _ = _ from h]

/-- The names of a list are contained in every list of the same names. -/
private theorem SameNames.contains_of_mem {old new : List String} (h : SameNames old new)
    {e : String × String} (he : e ∈ (Name.set new).toList) :
    (Name.set old).contains e.1 = true := by
  rw [h.contains_eq, KeyMap.contains, KeyMap.find?_of_mem he, Option.isSome_some]

/-- No name of a list is missing in a list of the same names. -/
private theorem filter_not_contains_eq_nil {old new : List String} (h : SameNames old new) :
    ((Name.set new).toList.filter fun e => !(Name.set old).contains e.1) = [] := by
  refine List.filter_eq_nil_iff.mpr fun e he => ?_
  simp [h.contains_of_mem he]

/-- Types that are thrown on both sides are never looked up in the hierarchy. -/
theorem compareThrows_eq_nil {old new : List String} (h : SameNames old new) :
    compareThrows p target location old new = .ok [] := by
  -- Whatever new types replace, no type is gone.
  have hgone : ∀ replaced : List String, ((Name.set old).toList.filter fun e =>
      !(Name.set new).contains e.1 && e.1 ∉ replaced) = [] := fun replaced => by
    refine List.filter_eq_nil_iff.mpr fun e he => ?_
    simp [h.symm.contains_of_mem he]
  simp only [compareThrows, filter_not_contains_eq_nil h, relateAllThrown, bind, Except.bind, hgone]
  rfl

/-- References to the same class-likes do not differ. -/
theorem compareReferences_eq_nil {word : String} {gained lost : PhpChange} {old new : List String}
    (h : SameNames old new) : compareReferences p word gained lost location old new = [] := by
  simp only [compareReferences, filter_not_contains_eq_nil h, filter_not_contains_eq_nil h.symm,
    List.map_nil, List.append_nil]

/-- Methods that are respelled do not differ. -/
theorem compareMethods_eq_nil {old new : Method} (h : old.Cosmetic new) :
    compareMethods p location old new = .ok [] := by
  simp only [compareMethods, compareThrows_eq_nil h.throws, h.visibility, h.isStatic, h.isFinal,
    h.isAbstract, compareVisibility_self, compareFlag_self, compareParams_eq_nil _ _ _ h.params,
    compareReturn_eq_nil _ _ _ h.returnType, bind, Except.bind, List.append_nil]
  rfl

/-- Properties that are respelled do not differ. -/
theorem compareProperties_eq_nil {old new : Property} (h : old.Cosmetic new) :
    compareProperties p location old new = [] := by
  simp only [compareProperties, h.visibility, h.isStatic, compareVisibility_self, compareFlag_self,
    compareTypes_eq_nil _ _ _ _ _ h.type, List.append_nil]

/-- Constants whose values change do not differ. -/
theorem compareConstants_eq_nil {old new : Constant} (h : old.Cosmetic new) :
    compareConstants p location old new = [] := by
  simp only [compareConstants, h.visibility, compareVisibility_self]

end Parts

namespace MemberFamily

variable {α : Type} (f : MemberFamily α) {alike : α → α → Prop}

/-- The rules of a family do not tell alike members apart. -/
structure Tolerates (alike : α → α → Prop) : Prop where
  isApi : ∀ {m n}, alike m n → f.isApi m = f.isApi n
  changed : ∀ {p key b a}, alike b.value a.value → (f.rules p).changed key b a = .ok {}

/-- The keys of the published members of a class-like. -/
def publishedKeys (c : ClassLike) : List String :=
  ((f.members c).filter fun m => c.publishes (f.isApi m) (f.visibility m)).map f.key

variable {f}

/-- A key is shared if a shared member has it. -/
theorem mem_sharedKeys {c : ClassLike} {key : String} :
    key ∈ f.sharedKeys c ↔ ∃ m ∈ f.members c, f.Shared m ∧ f.key m = key := by
  simp only [sharedKeys, List.mem_map, List.mem_filter, and_assoc, Shared]

/-- A key is published if a published member has it. -/
theorem mem_publishedKeys {c : ClassLike} {key : String} :
    key ∈ f.publishedKeys c ↔ ∃ m ∈ f.members c, f.Publishes c m ∧ f.key m = key := by
  simp only [publishedKeys, List.mem_map, List.mem_filter, and_assoc, Publishes]

/-- Nothing stands in the view of all members under the keys that are not shared. -/
theorem find?_allView_eq_none_iff {c : Located ClassLike} {key : String} :
    (f.allView c).find? key = none ↔ key ∉ f.sharedKeys c.value := by
  rw [← not_iff_not, not_not, mem_sharedKeys, ← ne_eq, Option.ne_none_iff_exists']
  constructor
  · rintro ⟨e, he⟩
    obtain ⟨-, hmem, hshared, hkey⟩ := f.of_find?_allView he
    exact ⟨e.value, hmem, hshared, hkey⟩
  · rintro ⟨m, hm, hshared, rfl⟩
    exact f.exists_find?_allView hm hshared

/-- Nothing stands in the view of the published members under the keys that are not published. -/
theorem find?_publishedView_eq_none_iff {c : Located ClassLike} {key : String} :
    (f.publishedView c).find? key = none ↔ key ∉ f.publishedKeys c.value := by
  rw [← not_iff_not, not_not, mem_publishedKeys, ← ne_eq, Option.ne_none_iff_exists']
  constructor
  · rintro ⟨e, he⟩
    obtain ⟨-, hmem, hpub, hkey⟩ := f.of_find?_publishedView he
    exact ⟨e.value, hmem, hpub, hkey⟩
  · rintro ⟨m, hm, hpub, rfl⟩
    exact f.exists_find?_publishedView hm hpub

/-- Alike members are published by both class-likes or by neither. -/
private theorem publishes_iff (hf : f.Tolerates alike) {old new : ClassLike} {m n : α}
    (hapi : old.isApi = new.isApi) (hm : f.Shared m) (hn : f.Shared n) (h : alike m n) :
    f.Publishes old m ↔ f.Publishes new n := by
  have hm' : (f.visibility m).isShared = true := hm
  have hn' : (f.visibility n).isShared = true := hn
  rw [Publishes, Publishes, ClassLike.publishes, ClassLike.publishes, hm', hn', hf.isApi h, hapi]

/-- A rewrite publishes the same keys. -/
theorem Cosmetic.mem_publishedKeys_iff {old new : ClassLike} (h : f.Cosmetic alike old new)
    (hf : f.Tolerates alike) (hapi : old.isApi = new.isApi) {key : String} :
    key ∈ f.publishedKeys old ↔ key ∈ f.publishedKeys new := by
  rw [mem_publishedKeys, mem_publishedKeys]
  -- A published member is shared, so a shared member stands under its key on the other side.
  constructor
  · rintro ⟨m, hm, hpub, rfl⟩
    have hshared := Publishes.shared f hpub
    obtain ⟨n, hn, hshared', hkey⟩ := mem_sharedKeys.mp
      ((h.keys (f.key m)).mp (mem_sharedKeys.mpr ⟨m, hm, hshared, rfl⟩))
    have halike := h.alike m hm n hn hshared hshared' hkey.symm
    exact ⟨n, hn, (publishes_iff hf hapi hshared hshared' halike).mp hpub, hkey⟩
  · rintro ⟨n, hn, hpub, rfl⟩
    have hshared := Publishes.shared f hpub
    obtain ⟨m, hm, hshared', hkey⟩ := mem_sharedKeys.mp
      ((h.keys (f.key n)).mpr (mem_sharedKeys.mpr ⟨n, hn, hshared, rfl⟩))
    have halike := h.alike m hm n hn hshared' hshared hkey
    exact ⟨m, hm, (publishes_iff hf hapi hshared' hshared halike).mpr hpub, hkey⟩

/-- A rewrite publishes members if the original does. -/
theorem Cosmetic.publishes_none_iff {old new : ClassLike} (h : f.Cosmetic alike old new)
    (hf : f.Tolerates alike) (hapi : old.isApi = new.isApi) :
    (∀ m ∈ f.members old, ¬ f.Publishes old m) ↔ ∀ n ∈ f.members new, ¬ f.Publishes new n := by
  have hkeys : ∀ key, key ∈ f.publishedKeys old ↔ key ∈ f.publishedKeys new := fun _ =>
    h.mem_publishedKeys_iff hf hapi
  simp only [mem_publishedKeys] at hkeys
  constructor
  · intro hnone n hn hpub
    obtain ⟨m, hm, hpub', -⟩ := (hkeys (f.key n)).mpr ⟨n, hn, hpub, rfl⟩
    exact hnone m hm hpub'
  · intro hnone m hm hpub
    obtain ⟨n, hn, hpub', -⟩ := (hkeys (f.key m)).mp ⟨m, hm, hpub, rfl⟩
    exact hnone n hn hpub'

/-- Among all members of a rewrite nothing is found. -/
theorem apply_allViews (hf : f.Tolerates alike) {p : Pair}
    (h : f.Cosmetic alike p.before.value p.after.value) :
    (f.allViews p).divide.apply (f.rules p) = .ok {} := by
  apply Division.apply_divide_eq_empty
  · intro key
    show (f.allView p.before).find? key = none ↔ (f.allView p.after).find? key = none
    rw [find?_allView_eq_none_iff, find?_allView_eq_none_iff, h.keys]
  · intro key b a hb ha
    obtain ⟨-, hm, hshared, hkey⟩ := f.of_find?_allView hb
    obtain ⟨-, hn, hshared', hkey'⟩ := f.of_find?_allView ha
    exact hf.changed (h.alike _ hm _ hn hshared hshared' (hkey.trans hkey'.symm))

/-- Among the published members of a rewrite nothing is found. -/
theorem apply_views (hf : f.Tolerates alike) {p : Pair}
    (h : f.Cosmetic alike p.before.value p.after.value)
    (hapi : p.before.value.isApi = p.after.value.isApi) :
    (f.views p).divide.apply (f.rules p) = .ok {} := by
  apply Division.apply_divide_eq_empty
  · intro key
    show (f.publishedView p.before).find? key = none ↔ (f.publishedView p.after).find? key = none
    rw [find?_publishedView_eq_none_iff, find?_publishedView_eq_none_iff,
      h.mem_publishedKeys_iff hf hapi]
  · intro key b a hb ha
    obtain ⟨-, hm, hpub, hkey⟩ := f.of_find?_publishedView hb
    obtain ⟨-, hn, hpub', hkey'⟩ := f.of_find?_publishedView ha
    exact hf.changed (h.alike _ hm _ hn (Publishes.shared f hpub) (Publishes.shared f hpub')
      (hkey.trans hkey'.symm))

end MemberFamily

/-- Respelled methods are not told apart. -/
theorem tolerates_methodFamily : methodFamily.Tolerates Method.Cosmetic where
  isApi h := h.isApi
  changed h := by
    simp only [methodFamily, methodRules, compareMethods_eq_nil h]
    rfl

/-- Respelled properties are not told apart. -/
theorem tolerates_propertyFamily : propertyFamily.Tolerates Property.Cosmetic where
  isApi h := h.isApi
  changed h := by
    simp only [propertyFamily, propertyRules, compareProperties_eq_nil h]
    rfl

/-- Constants of other values are not told apart. -/
theorem tolerates_constantFamily : constantFamily.Tolerates Constant.Cosmetic where
  isApi h := h.isApi
  changed h := by
    simp only [constantFamily, constantRules, compareConstants_eq_nil h]
    rfl

/-! ## Class-likes -/

section Classes

variable {s : Setting} {context : Context} {b a : Located ClassLike}

/-- A rewrite has a surface if the original has one. -/
theorem ClassLike.Cosmetic.surface?_eq_none_iff {old new : ClassLike} (h : old.Cosmetic new) :
    old.surface? = none ↔ new.surface? = none := by
  rw [ClassLike.surface?_eq_none_iff, ClassLike.surface?_eq_none_iff]
  have hmethods := h.methods.publishes_none_iff tolerates_methodFamily h.isApi
  have hproperties := h.properties.publishes_none_iff tolerates_propertyFamily h.isApi
  have hconstants := h.constants.publishes_none_iff tolerates_constantFamily h.isApi
  constructor
  · intro hold
    exact ⟨h.isApi ▸ hold.isApi, hmethods.mp hold.methods, hproperties.mp hold.properties,
      hconstants.mp hold.constants⟩
  · intro hnew
    exact ⟨h.isApi ▸ hnew.isApi, hmethods.mpr hnew.methods, hproperties.mpr hnew.properties,
      hconstants.mpr hnew.constants⟩

/-- The heads of rewritten class-likes do not differ. -/
private theorem compareHeads_eq_nil (h : b.value.Cosmetic a.value) (location : Path) :
    compareHeads ⟨s, context, b, a⟩ location = [] := by
  simp only [compareHeads, compareReferences_eq_nil h.parents,
    compareReferences_eq_nil h.interfaces, compareReferences_eq_nil h.traits, h.isFinal,
    h.isAbstract, compareFlag_self, List.append_nil]

/-- Equal marks do not differ. -/
theorem compareMarks_eq_empty (h : b.value.isApi = a.value.isApi) :
    compareMarks s context b a = {} := by
  rw [compareMarks, gainedMark, lostMark, h]
  cases a.value.isApi <;> rfl

/-- On the published parts of a rewrite nothing is found. -/
theorem pairFindings_eq_empty (h : b.value.Cosmetic a.value) :
    pairFindings s context b a = .ok {} := by
  have hhead : headFindings s context b a = {} := by
    rw [headFindings, compareHeads_eq_nil h, compareMarks_eq_empty h.isApi]
    exact ite_self _
  have hmembers : memberFindings ⟨s, context, b, a⟩ ⟨b.value.surface?, a.value.surface?⟩ =
      .ok {} :=
    (memberFindings_eq_ok_iff (p := ⟨s, context, b, a⟩)).mpr ⟨{}, {}, {},
      MemberFamily.apply_views tolerates_methodFamily h.methods h.isApi,
      MemberFamily.apply_views tolerates_propertyFamily h.properties h.isApi,
      MemberFamily.apply_views tolerates_constantFamily h.constants h.isApi, rfl⟩
  rw [pairFindings, hmembers, hhead]
  rfl

/-- In a whole rewrite nothing is found. -/
theorem everythingFindings_eq_empty (h : b.value.Cosmetic a.value) :
    everythingFindings s context b a = .ok {} := by
  have hmembers : memberFindings ⟨s, context, b, a⟩ ⟨some b.value, some a.value⟩ = .ok {} :=
    (allMemberFindings_eq_ok_iff (p := ⟨s, context, b, a⟩)).mpr ⟨{}, {}, {},
      MemberFamily.apply_allViews tolerates_methodFamily h.methods,
      MemberFamily.apply_allViews tolerates_propertyFamily h.properties,
      MemberFamily.apply_allViews tolerates_constantFamily h.constants, rfl⟩
  rw [everythingFindings, hmembers, compareHeads_eq_nil h]
  rfl

end Classes

/-! ## Registries -/

section Registries

variable {s : Setting}

/-- Registries of the same keys miss the same class-likes. -/
private theorem find?_eq_none_iff (h : s.before.Cosmetic s.after) (context : Context)
    (key : String) : s.before.find? context key = none ↔ s.after.find? context key = none := by
  rw [Registry.find?, Registry.find?, ← KeyMap.contains_eq_false_iff,
    ← KeyMap.contains_eq_false_iff, ← Bool.not_eq_true, ← Bool.not_eq_true,
    ← KeyMap.mem_keys_iff, ← KeyMap.mem_keys_iff, h.keys]

/-- The surfaces of a rewritten registry miss the same class-likes. -/
private theorem find?_surface_eq_none_iff_of_cosmetic (h : s.before.Cosmetic s.after)
    (context : Context) (key : String) :
    (surfaceViews s context).publishedBefore.find? key = none ↔
      (surfaceViews s context).publishedAfter.find? key = none := by
  show ((publishedSurface s.before).inContext context).find? key = none ↔
    ((publishedSurface s.after).inContext context).find? key = none
  cases hb : s.before.find? context key with
  | none =>
    have ha := (find?_eq_none_iff h context key).mp hb
    rw [find?_surface, find?_surface, hb, ha]
  | some b =>
    -- The class-like has a counterpart, and both have a surface or neither has.
    obtain ⟨a, ha⟩ := Option.ne_none_iff_exists'.mp fun ha =>
      nomatch hb.symm.trans ((find?_eq_none_iff h context key).mpr ha)
    rw [find?_surface_eq_none_iff hb, find?_surface_eq_none_iff ha,
      (h.classLikes context key b a hb ha).surface?_eq_none_iff]

/-- Cosmetic rewrites are never reported, neither on the published surfaces nor among all
declarations, whatever the rules, the hierarchy and its policy for cycles are. -/
theorem differences_of_cosmetic (h : s.before.Cosmetic s.after) :
    publishedDifferences s (publishedSurface s.before) (publishedSurface s.after) = .ok {} ∧
      allDifferences s = .ok [] := by
  constructor
  -- In each context nothing enters or leaves, and what stays is a rewrite.
  · refine Findings.collect_eq_empty fun context _ => ?_
    refine Division.apply_divide_eq_empty (v := surfaceViews s context)
      (find?_surface_eq_none_iff_of_cosmetic h context) fun key b' a' hb' ha' => ?_
    obtain ⟨b, pb, hb, hpb, rfl⟩ := find?_surface_eq_some_iff.mp hb'
    obtain ⟨a, pa, ha, hpa, rfl⟩ := find?_surface_eq_some_iff.mp ha'
    rw [changed_eq_pairFindings hb ha hpb hpa]
    exact pairFindings_eq_empty (h.classLikes context key b a hb ha)
  · have hall : findings .everything s (allViews s) = .ok {} := by
      refine Findings.collect_eq_empty fun context _ => ?_
      refine Division.apply_divide_eq_empty (fun key => ?_) fun key b a hb ha => ?_
      · show (s.before.inContext context).find? key = none ↔
          (s.after.inContext context).find? key = none
        rw [Registry.find?_inContext, Registry.find?_inContext, find?_eq_none_iff h]
      · have hb : s.before.find? context key = some b :=
          (Registry.find?_inContext _ _ _).symm.trans hb
        have ha : s.after.find? context key = some a :=
          (Registry.find?_inContext _ _ _).symm.trans ha
        rw [changed_eq_everythingFindings hb ha]
        exact everythingFindings_eq_empty (h.classLikes context key b a hb ha)
    show (findings .everything s (allViews s)).map (·.changes) = .ok []
    rw [hall]
    rfl

/-- A class with a method and a constant. -/
private def itemClass : ClassLike where
  name := "Shop\\Item"
  kind := .classKind
  isApi := true
  interfaces := ["Countable", "\\Sellable"]
  methods := [{
    name := "price"
    params := [{ name := "taxes", type := some { name := "int|\\Tax" } }]
    throws := ["\\LogicException"] }]
  constants := [{ name := "LIMIT", value := some "8" }]

/-- The same class in other words, with another limit and a private method. -/
private def itemRespelled : ClassLike where
  name := "\\shop\\item"
  kind := .classKind
  isApi := true
  interfaces := ["sellable", "countable"]
  methods := [
    { name := "cached", visibility := .privateAccess },
    { name := "Price"
      params := [{ name := "rate", type := some { name := "TAX | Int" } }]
      throws := ["logicException"] }]
  constants := [{ name := "LIMIT", value := some "16" }]

/-- The class is rewritten and moves to another file; cycles are complained about. -/
private def respelling : Setting where
  table := {}
  hierarchy := { policy := .error }
  before := Registry.empty.insert .classes "shop\\item" itemClass ⟨"item.php.json"⟩
  after := Registry.empty.insert .classes "shop\\item" itemRespelled ⟨"lib/item.php.json"⟩

/-- The class in other words is a rewrite. -/
private theorem cosmetic_itemRespelled : itemClass.Cosmetic itemRespelled where
  kind := rfl
  isApi := rfl
  isFinal := rfl
  isAbstract := rfl
  parents := rfl
  interfaces := by decide +kernel
  traits := rfl
  methods := by
    have hkeys : methodFamily.sharedKeys itemClass = methodFamily.sharedKeys itemRespelled := by
      decide +kernel
    refine ⟨fun key => by rw [hkeys], ?_⟩
    intro m hm n hn _ hshared _
    obtain rfl := List.mem_singleton.mp hm
    -- The private method is not shared and need not be like any other.
    rcases List.mem_cons.mp hn with rfl | hn
    · exact absurd hshared (by decide)
    · obtain rfl := List.mem_singleton.mp hn
      have htype : TypeDecl.same { name := "int|\\Tax" } { name := "TAX | Int" } = true :=
        TypeDecl.same_of_perm (by decide +kernel)
      exact ⟨rfl, rfl, rfl, rfl, rfl, .cons ⟨⟨htype, rfl⟩, rfl, rfl⟩ .nil, trivial,
        by decide +kernel⟩
  properties := ⟨fun _ => Iff.rfl, fun _ hm => nomatch hm⟩
  constants := by
    refine ⟨fun _ => Iff.rfl, ?_⟩
    intro m hm n hn _ _ _
    obtain rfl := List.mem_singleton.mp hm
    obtain rfl := List.mem_singleton.mp hn
    exact ⟨rfl, rfl⟩

/-- Other spellings, another order, a renamed parameter, another value and a private method go
unnoticed. -/
theorem differences_of_respelled : respelling.before ≠ respelling.after ∧
    publishedDifferences respelling (publishedSurface respelling.before)
      (publishedSurface respelling.after) = .ok {} ∧
    allDifferences respelling = .ok [] := by
  refine ⟨by decide +kernel, differences_of_cosmetic ⟨rfl, ?_⟩⟩
  intro context key b a hb ha
  simp only [respelling, Registry.find?_insert] at hb ha
  split at hb
  case isTrue hkey =>
    rw [if_pos hkey] at ha
    cases hb
    cases ha
    exact cosmetic_itemRespelled
  case isFalse => exact nomatch hb

end Registries

end Php

end VersionBump
