import VersionBump.Proofs.IgnoredCycles
import VersionBump.Proofs.InheritedMembers
import VersionBump.Proofs.PublishedRemovals

/-!
# Inherited methods

A published class-like offers what it inherits, too. The comparison of the published surfaces judges
a class-like by its own members and its own head, and what is not published is a patch at most. So
what a published class-like inherits is judged link by link: a method that cannot be resolved any
more makes a major bump if the first link that broke belongs to something published.

* `resolveMethod?` is the method of a name on a class-like, its own or an inherited one.
* `HeldChain` is a way to a method whose links are still there afterwards up to the first lost one,
  which belongs to something published. Where everything is published,
  `heldChain_of_isSome_resolveMethod?` gives one.
* `assess_major_of_unresolved` is the statement, and `inherited_method_lost_as_patch` shows that it
  fails for links that are not published.
-/

namespace VersionBump

namespace Php

/-- The first method of a name on a class-like itself, if it is shared. -/
def ClassLike.sharedMethod? (c : ClassLike) (name : String) : Option Method :=
  (c.method? name).filter (·.visibility.isShared)

/-- The shared method of a name on a class-like, its own or an inherited one. -/
def resolveMethod? (r : Registry ClassLike) (c : ClassLike) (name : String) : Option Method :=
  (c.sharedMethod? name).or (inheritedMethod? r c name)

/-- A class-like still has a shared method of the name. -/
def KeepsMethod (r : Registry ClassLike) (context : Context) (key name : String) : Prop :=
  ∃ a, r.find? context key = some a ∧ (a.value.sharedMethod? name).isSome

/-- A class-like still has the source. -/
def KeepsSource (r : Registry ClassLike) (context : Context) (key source : String) : Prop :=
  ∃ a, r.find? context key = some a ∧ ∃ other ∈ a.value.sources, Name.key other = Name.key source

/-- A way from a class-like through its sources towards a shared method of the name. Its links are
still there afterwards up to the first one that is lost, and that one belongs to something published.
What lies behind it does not count. -/
inductive HeldChain (before after : Registry ClassLike) (name : String) : Context → String → Prop
  /-- The way ends at the method. If that is lost, it was published. -/
  | own {context : Context} {key : String} {b : Located ClassLike} {m : Method}
      (hb : before.find? context key = some b) (hm : m ∈ b.value.methods)
      (hname : Text.equalsIgnoreAsciiCase m.name name = true)
      (hshared : m.visibility.isShared = true)
      (held : (m.isApi || b.value.isApi) = true ∨ KeepsMethod after context key name) :
      HeldChain before after name context key
  /-- A link that is kept, and the way behind it. -/
  | source {context : Context} {key source : String} {b d : Located ClassLike} {kind : ClassKind}
      (hb : before.find? context key = some b) (hs : source ∈ b.value.sources)
      (hfound : findClass? before source = some d.value)
      (hd : before.find? kind.context (Name.key source) = some d)
      (hkept : KeepsSource after context key source)
      (rest : HeldChain before after name kind.context (Name.key source)) :
      HeldChain before after name context key
  /-- A link that is lost by a published class-like. -/
  | lost {context : Context} {key source : String} {b : Located ClassLike}
      (hb : before.find? context key = some b) (hs : source ∈ b.value.sources)
      (hapi : b.value.isApi = true) (hlost : ¬ KeepsSource after context key source) :
      HeldChain before after name context key
  /-- A class-like that was published, in whole or in part, is lost with all its links. -/
  | gone {context : Context} {key : String} {b : Located ClassLike}
      (hb : before.find? context key = some b) (hpart : b.value.surface? ≠ none)
      (hgone : after.find? context key = none) : HeldChain before after name context key

/-- No method has a name that differs from the given one in nothing but the case of letters beyond
ASCII. Methods are compared without case, but looked up without the case of ASCII letters only. -/
def AsciiSpellings (r : Registry ClassLike) (name : String) : Prop :=
  ∀ c ∈ r.values, ∀ m ∈ c.methods, m.key = Text.toLower name →
    Text.equalsIgnoreAsciiCase m.name name = true

instance (r : Registry ClassLike) (name : String) : Decidable (AsciiSpellings r name) :=
  inferInstanceAs (Decidable (∀ c ∈ r.values, ∀ m ∈ c.methods, _))

/-- Looking up the method of a name in a registry agrees with comparing declarations by key. -/
structure LooksUpByKey (r : Registry ClassLike) (name : String) : Prop where
  /-- The methods of a class-like have keys of their own. -/
  uniqueKeys : ∀ c ∈ r.values, methodFamily.UniqueKeys c
  spellings : AsciiSpellings r name
  /-- No name is declared under two kinds. -/
  oneKind : ∀ e ∈ r.toList, ∀ e' ∈ r.toList, e.1.name = e'.1.name → e.1 = e'.1

instance (r : Registry ClassLike) (name : String) : Decidable (LooksUpByKey r name) :=
  decidable_of_iff ((∀ c ∈ r.values, methodFamily.UniqueKeys c) ∧ AsciiSpellings r name ∧
      ∀ e ∈ r.toList, ∀ e' ∈ r.toList, e.1.name = e'.1.name → e.1 = e'.1)
    ⟨fun h => ⟨h.1, h.2.1, h.2.2⟩, fun h => ⟨h.uniqueKeys, h.spellings, h.oneKind⟩⟩

/-! ## Resolving -/

section Resolving

variable {r : Registry ClassLike} {c d : ClassLike} {name : String}

/-- A method is resolved exactly if the class-like or one that can be reached from its sources has a
shared one. -/
theorem isSome_resolveMethod?_iff :
    (resolveMethod? r c name).isSome ↔ (c.sharedMethod? name).isSome ∨
      ∃ source ∈ c.sources, ∃ d, Reaches r source d ∧ (d.sharedMethod? name).isSome := by
  rw [resolveMethod?, Option.isSome_or, Bool.or_eq_true]
  exact or_congr_right isSome_inherited?_iff

/-- What a source resolves its users resolve. -/
theorem isSome_resolveMethod?_of_source {source : String} (hs : source ∈ c.sources)
    (hd : findClass? r source = some d) (h : (resolveMethod? r d name).isSome) :
    (resolveMethod? r c name).isSome := by
  rw [isSome_resolveMethod?_iff] at h ⊢
  rcases h with hown | ⟨next, hnext, e, he, hshared⟩
  · exact .inr ⟨source, hs, d, .found hd, hown⟩
  · exact .inr ⟨source, hs, e, .source hd hnext he, hshared⟩

/-- The method of a name is that of every spelling of it. -/
theorem ClassLike.method?_congr {other : String}
    (h : Text.equalsIgnoreAsciiCase other name = true) : c.method? other = c.method? name := by
  have hnames : (fun m : Method => Text.equalsIgnoreAsciiCase m.name other) =
      fun m => Text.equalsIgnoreAsciiCase m.name name :=
    funext fun m => Text.equalsIgnoreAsciiCase_congr h m.name
  rw [ClassLike.method?, ClassLike.method?, hnames]

/-- What is inherited for a name is inherited for every spelling of it. -/
theorem inheritedMethod?_congr {other : String}
    (h : Text.equalsIgnoreAsciiCase other name = true) :
    inheritedMethod? r c other = inheritedMethod? r c name := by
  simp only [inheritedMethod?, ClassLike.method?_congr h]

/-- Where at most one element satisfies a condition, it is the one that is found. -/
theorem find?_eq_some_iff_of_unique {α : Type} {xs : List α} {found : α → Bool}
    (hunique : ∀ x ∈ xs, ∀ y ∈ xs, found x = true → found y = true → x = y) {x : α} :
    xs.find? found = some x ↔ x ∈ xs ∧ found x = true := by
  refine ⟨fun h => ⟨List.mem_of_find?_eq_some h, List.find?_some h⟩, ?_⟩
  rintro ⟨hx, hfound⟩
  obtain ⟨y, hy⟩ := Option.isSome_iff_exists.mp (List.find?_isSome.mpr ⟨x, hx, hfound⟩)
  rw [hy, hunique y (List.mem_of_find?_eq_some hy) x hx (List.find?_some hy) hfound]

/-- A method is found by the spellings of its name. -/
theorem ClassLike.method?_eq_some_iff (h : methodFamily.UniqueKeys c) {m : Method} :
    c.method? name = some m ↔ m ∈ c.methods ∧ Text.equalsIgnoreAsciiCase m.name name = true := by
  refine find?_eq_some_iff_of_unique fun x hx y hy hxname hyname => ?_
  -- Spellings of one name have one key.
  exact h.eq methodFamily hx hy ((Text.toLower_eq_of_equalsIgnoreAsciiCase hxname).trans
    (Text.toLower_eq_of_equalsIgnoreAsciiCase hyname).symm)

/-- A shared method is found by the spellings of its name. -/
theorem ClassLike.isSome_sharedMethod?_iff (h : methodFamily.UniqueKeys c) :
    (c.sharedMethod? name).isSome ↔ ∃ m ∈ c.methods, methodFamily.Shared m ∧
      Text.equalsIgnoreAsciiCase m.name name = true := by
  rw [ClassLike.sharedMethod?, Option.isSome_iff_exists]
  constructor
  · rintro ⟨m, hm⟩
    obtain ⟨hfound, hshared⟩ := Option.filter_eq_some_iff.mp hm
    obtain ⟨hin, hname⟩ := (ClassLike.method?_eq_some_iff h).mp hfound
    exact ⟨m, hin, hshared, hname⟩
  · rintro ⟨m, hin, hshared, hname⟩
    exact ⟨m, Option.filter_eq_some_iff.mpr
      ⟨(ClassLike.method?_eq_some_iff h).mpr ⟨hin, hname⟩, hshared⟩⟩

namespace LooksUpByKey

/-- A shared method of the key of a name is found under the name. -/
theorem isSome_sharedMethod? (h : LooksUpByKey r name) (hc : c ∈ r.values) {m : Method}
    (hm : m ∈ c.methods) (hkey : m.key = Text.toLower name) (hshared : methodFamily.Shared m) :
    (c.sharedMethod? name).isSome :=
  (ClassLike.isSome_sharedMethod?_iff (h.uniqueKeys c hc)).mpr
    ⟨m, hm, hshared, h.spellings c hc m hm hkey⟩

/-- A class-like is found under its name, whatever its kind. -/
theorem findClass?_eq (h : LooksUpByKey r name) {kind : ClassKind} {other : String}
    {e : Located ClassLike} (he : r.find? kind.context (Name.key other) = some e) :
    findClass? r other = some e.value := by
  cases hfind : findClass? r other with
  | none =>
    have hnone := List.findSome?_eq_none_iff.mp hfind kind (by cases kind <;> decide)
    simp [Registry.get?, he] at hnone
  | some d =>
    obtain ⟨kind', e', he', rfl⟩ := exists_find?_of_findClass? hfind
    have hkey := h.oneKind _ (r.entries.mem_toList_iff.mpr he) _ (r.entries.mem_toList_iff.mpr he')
      rfl
    have hcontext : kind.context = kind'.context := congrArg Registry.Key.context hkey
    rw [hcontext, he'] at he
    rw [Option.some.inj he]

end LooksUpByKey

/-- A shared method that is found is one of the class-like. -/
private theorem exists_of_sharedMethod? (h : (c.sharedMethod? name).isSome) :
    ∃ m ∈ c.methods, Text.equalsIgnoreAsciiCase m.name name = true ∧
      m.visibility.isShared = true := by
  obtain ⟨m, hm⟩ := Option.isSome_iff_exists.mp h
  obtain ⟨hmethod, hvisible⟩ := Option.filter_eq_some_iff.mp hm
  obtain ⟨hin, hname, -⟩ := key_of_method? hmethod
  exact ⟨m, hin, hname, hvisible⟩

/-- A link of a published class-like is kept, with a held way behind it, or it is lost. -/
private theorem HeldChain.of_published {before after : Registry ClassLike} {context : Context}
    {key source : String} {b d : Located ClassLike} {kind : ClassKind}
    (hb : before.find? context key = some b) (hapi : b.value.isApi = true)
    (hs : source ∈ b.value.sources) (hfound : findClass? before source = some d.value)
    (hd : before.find? kind.context (Name.key source) = some d)
    (rest : HeldChain before after name kind.context (Name.key source)) :
    HeldChain before after name context key := by
  by_cases hkept : KeepsSource after context key source
  · exact .source hb hs hfound hd hkept rest
  · exact .lost hb hs hapi hkept

/-- Where everything is published, there is a held way to whatever can be reached. -/
private theorem heldChain_of_reaches {before after : Registry ClassLike}
    (hapi : ∀ c ∈ before.values, c.isApi = true) {source : String} {d : ClassLike}
    (hd : Reaches before source d) (hshared : (d.sharedMethod? name).isSome) :
    ∃ kind : ClassKind, ∃ e, before.find? kind.context (Name.key source) = some e ∧
      findClass? before source = some e.value ∧
      HeldChain before after name kind.context (Name.key source) := by
  induction hd with
  | found hfound =>
    obtain ⟨kind, e, he, rfl⟩ := exists_find?_of_findClass? hfound
    obtain ⟨m, hin, hname, hvisible⟩ := exists_of_sharedMethod? hshared
    have hpublished := hapi _ (Registry.value_mem_of_find? he)
    exact ⟨kind, e, he, hfound, .own he hin hname hvisible (.inl (by simp [hpublished]))⟩
  | source hfound hs _ ih =>
    obtain ⟨kind, e, he, rfl⟩ := exists_find?_of_findClass? hfound
    obtain ⟨kind', e', he', hfound', hchain⟩ := ih hshared
    have hpublished := hapi _ (Registry.value_mem_of_find? he)
    exact ⟨kind, e, he, hfound, .of_published he hpublished hs hfound' he' hchain⟩

/-- Where everything is published, there is a held way to whatever is resolved. -/
theorem heldChain_of_isSome_resolveMethod? {before after : Registry ClassLike}
    (hapi : ∀ c ∈ before.values, c.isApi = true) {context : Context} {key : String}
    {b : Located ClassLike} (hb : before.find? context key = some b)
    (h : (resolveMethod? before b.value name).isSome) : HeldChain before after name context key := by
  have hpublished := hapi _ (Registry.value_mem_of_find? hb)
  rcases isSome_resolveMethod?_iff.mp h with hown | ⟨source, hs, d, hd, hshared⟩
  · obtain ⟨m, hin, hname, hvisible⟩ := exists_of_sharedMethod? hown
    exact .own hb hin hname hvisible (.inl (by simp [hpublished]))
  · obtain ⟨kind, e, he, hfound, hchain⟩ := heldChain_of_reaches hapi hd hshared
    exact .of_published hb hpublished hs hfound he hchain

end Resolving

/-! ## Lost sources -/

section Heads

variable (p : Pair) (location : Path)

/-- A reference whose key is not referred to afterwards is reported as lost. -/
private theorem exists_lost_mem (word : String) (gained lost : PhpChange)
    {before after : List String} {source : String} (hs : source ∈ before)
    (hgone : ∀ other ∈ after, Name.key other ≠ Name.key source) :
    ∃ target, p.op lost target location ∈
      compareReferences p word gained lost location before after := by
  have hold : (Name.set before).contains (Name.key source) = true :=
    KeyMap.contains_ofListFirst.mpr (List.mem_map.mpr ⟨_, List.mem_map.mpr ⟨source, hs, rfl⟩, rfl⟩)
  have hnew : (Name.set after).contains (Name.key source) = false := by
    refine Bool.eq_false_iff.mpr fun hin => ?_
    obtain ⟨e, he, hkey⟩ := List.mem_map.mp (KeyMap.contains_ofListFirst.mp hin)
    obtain ⟨other, hother, rfl⟩ := List.mem_map.mp he
    exact hgone other hother hkey
  obtain ⟨spelling, hspelling⟩ := Option.isSome_iff_exists.mp hold
  have hmem := (Name.set before).mem_toList_iff.mpr hspelling
  exact ⟨_, List.mem_append_right _ (List.mem_map.mpr
    ⟨_, List.mem_filter.mpr ⟨hmem, by rw [hnew]; rfl⟩, rfl⟩)⟩

/-- Losing a source is a major change of the head, whether it was a parent or a trait. -/
theorem exists_major_of_source_lost {source : String} (hs : source ∈ p.before.value.sources)
    (hgone : ∀ other ∈ p.after.value.sources, Name.key other ≠ Name.key source)
    (ht : p.setting.table = {}) : ∃ op ∈ compareHeads p location, op.level = .major := by
  have hmajor : ∀ change ∈ [PhpChange.parentRemoved, .traitRemoved], ∀ target,
      (p.op change target location).level = .major := by
    intro change hchange target
    simp only [Pair.op, ht]
    simp only [List.mem_cons, List.not_mem_nil, or_false] at hchange
    rcases hchange with rfl | rfl <;> rfl
  rcases List.mem_append.mp hs with hparent | htrait
  · obtain ⟨target, hop⟩ := exists_lost_mem p location "extends" .parentAdded .parentRemoved
      hparent fun other hother => hgone other (List.mem_append_left _ hother)
    refine ⟨_, ?_, hmajor .parentRemoved (by simp) target⟩
    simp only [compareHeads, List.mem_append]
    exact .inl (.inl (.inl (.inl hop)))
  · obtain ⟨target, hop⟩ := exists_lost_mem p location "uses" .traitAdded .traitRemoved htrait
      fun other hother => hgone other (List.mem_append_right _ hother)
    refine ⟨_, ?_, hmajor .traitRemoved (by simp) target⟩
    simp only [compareHeads, List.mem_append]
    exact .inl (.inl (.inr hop))

end Heads

end Php

/-! ## Links -/

section Links

variable {before after : Snapshot} {r : Assessment} {published : Findings} {unpublished : Report}
  {context : Context} {key name : String} {b : Located Php.ClassLike}

/-- The contexts of kinds are those of PHP declarations. -/
private theorem context_mem (kind : Php.ClassKind) : kind.context ∈ Php.contexts := by
  cases kind <;> decide

namespace Assessment.Stages

/-- A source of a published class-like is kept, or the bump is a major one. -/
private theorem keepsSource_or_major (h : r.Stages {} before after published unpublished)
    (hc : context ∈ Php.contexts) (hb : before.php.find? context key = some b)
    (hapi : b.value.isApi = true) {source : String} (hs : source ∈ b.value.sources) :
    Php.KeepsSource after.php context key source ∨ r.level = .major := by
  have hpart := Php.ClassLike.surface?_ne_none hapi
  cases ha : after.php.find? context key with
  | none => exact .inr (h.level_eq_major (h.records_removed hc hb ha hpart))
  | some a =>
    cases hapi' : a.value.isApi with
    | false => exact .inr (h.level_eq_major (h.records_unmarked hc hb ha hapi hapi'))
    | true =>
      by_cases hkept : ∃ other ∈ a.value.sources, Name.key other = Name.key source
      · exact .inl ⟨a, ha, hkept⟩
      · -- API on both sides, so the heads are compared, and the source is missing in the later one.
        have hgone : ∀ other ∈ a.value.sources, Name.key other ≠ Name.key source :=
          fun other hother hkey => hkept ⟨other, hother, hkey⟩
        obtain ⟨op, hop, hlevel⟩ := Php.exists_major_of_source_lost
          ⟨phpSetting {} before after, context, b, a⟩ a.location hs hgone rfl
        obtain ⟨hhead, -⟩ := Php.exists_memberFindings h.publishedDifferences_eq hc hb ha
          (.inl hpart)
        rw [Php.headFindings, hapi, hapi', Bool.and_self, if_pos rfl] at hhead
        exact .inr (h.level_eq_major (h.records (.inl (hhead.changes op hop)) hlevel))

/-- A published method is still resolved on its class-like, or the bump is a major one. -/
private theorem resolves_or_major (h : r.Stages {} before after published unpublished)
    (hspell : Php.AsciiSpellings before.php name) (hlook : Php.LooksUpByKey after.php name)
    (hc : context ∈ Php.contexts) (hb : before.php.find? context key = some b) {m : Php.Method}
    (hin : m ∈ b.value.methods) (hname : Text.equalsIgnoreAsciiCase m.name name = true)
    (hpub : Php.methodFamily.Publishes b.value m) :
    (∃ a, after.php.find? context key = some a ∧
      (Php.resolveMethod? after.php a.value name).isSome) ∨ r.level = .major := by
  have hkey : m.key = Text.toLower name := Text.toLower_eq_of_equalsIgnoreAsciiCase hname
  have hpart := Php.methodFamily.surface?_ne_none hin hpub
  cases ha : after.php.find? context key with
  | none => exact .inr (h.level_eq_major (h.records_removed hc hb ha hpart))
  | some a =>
    have hvalue := Registry.value_mem_of_find? ha
    by_cases hresolved : (Php.resolveMethod? after.php a.value name).isSome
    · exact .inl ⟨a, rfl, hresolved⟩
    · rw [Php.resolveMethod?, Option.isSome_or, Bool.or_eq_true, not_or,
        Option.not_isSome_iff_eq_none, Option.not_isSome_iff_eq_none] at hresolved
      obtain ⟨hown, hinherited⟩ := hresolved
      obtain ⟨-, members, hmembers, hsub⟩ := Php.exists_memberFindings h.publishedDifferences_eq hc
        hb ha (.inl hpart)
      have hgone : ∀ n ∈ a.value.methods, n.key = m.key → ¬ Php.methodFamily.Shared n := by
        intro n hn hnkey hshared
        have hsome := hlook.isSome_sharedMethod? hvalue hn (hnkey.trans hkey) hshared
        rw [hown] at hsome
        exact nomatch hsome
      -- The methods of one key have one name up to ASCII case, so none of them is inherited.
      have hnone : ∀ n ∈ b.value.methods, n.key = m.key →
          Php.inheritedMethod? after.php a.value n.name = none := by
        intro n hn hnkey
        rw [Php.inheritedMethod?_congr
          (hspell _ (Registry.value_mem_of_find? hb) n hn (hnkey.trans hkey)), hinherited]
      obtain ⟨n, -, -, hop⟩ := Php.MemberFamily.exists_removed_mem Php.compared_methodFamily
        hmembers hin hpub hgone hnone
      exact .inr (h.level_eq_major (h.records (.inl (hsub.changes _ hop))
        (Php.methodFamily.removed_major (Severity.Column.ofContext context))))

/-- The method at the end of a way is still resolved, or the bump is a major one. -/
private theorem heldChain_resolves_or_major (h : r.Stages {} before after published unpublished)
    (hspell : Php.AsciiSpellings before.php name) (hlook : Php.LooksUpByKey after.php name)
    (hchain : Php.HeldChain before.php after.php name context key) (hc : context ∈ Php.contexts) :
    (∃ a, after.php.find? context key = some a ∧
      (Php.resolveMethod? after.php a.value name).isSome) ∨ r.level = .major := by
  -- From the end of the way: what the next class-like resolves this one does if it keeps the link.
  induction hchain with
  | own hb hin hname hshared held =>
    rcases held with hapi | ⟨a, ha, hkept⟩
    · have hpub : Php.methodFamily.Publishes _ _ := Bool.and_eq_true_iff.mpr ⟨hshared, hapi⟩
      exact h.resolves_or_major hspell hlook hc hb hin hname hpub
    · exact .inl ⟨a, ha, Php.isSome_resolveMethod?_iff.mpr (.inl hkept)⟩
  | source hb hs hfound hd hkept rest ih =>
    rcases ih (context_mem _) with ⟨d, hd, hresolved⟩ | hmajor
    · obtain ⟨a, ha, other, hother, hkey⟩ := hkept
      rw [← hkey] at hd
      exact .inl ⟨a, ha, Php.isSome_resolveMethod?_of_source hother (hlook.findClass?_eq hd)
        hresolved⟩
    · exact .inr hmajor
  | lost hb hs hapi hlost =>
    exact .inr ((h.keepsSource_or_major hc hb hapi hs).resolve_left hlost)
  | gone hb hpart hgone => exact .inr (h.level_eq_major (h.records_removed hc hb hgone hpart))

end Assessment.Stages

end Links

/-! ## Assessments -/

/-- A method that a class-like resolved before and does not resolve any more makes the bump a major
one, if the first lost link of a way to it belonged to something published. -/
theorem assess_major_of_unresolved {before after : Snapshot} {context : Context} {key name : String}
    {a : Located Php.ClassLike} (hp : after.hierarchy.policy = .ignore)
    (hspell : Php.AsciiSpellings before.php name) (hlook : Php.LooksUpByKey after.php name)
    (hc : context ∈ Php.contexts)
    (hchain : Php.HeldChain before.php after.php name context key)
    (ha : after.php.find? context key = some a)
    (hgone : Php.resolveMethod? after.php a.value name = none) :
    ∃ r, assess {} before after = .ok r ∧ r.level = .major := by
  obtain ⟨r, hr⟩ := exists_eq_ok_of_isOk (show (assess {} before after).isOk from isOk_assess hp)
  obtain ⟨published, unpublished, h⟩ := assess_eq_ok_iff.mp hr
  refine ⟨r, hr, ?_⟩
  rcases h.heldChain_resolves_or_major hspell hlook hchain hc with ⟨a', ha', hresolved⟩ | hmajor
  · rw [ha] at ha'
    cases ha'
    rw [hgone] at hresolved
    exact nomatch hresolved
  · exact hmajor

/-- A snapshot with some class-likes, each in a file of its own. -/
private def withClasses (classes : List Php.ClassLike) : Snapshot where
  php := classes.foldl (fun r c => r.insert c.kind.context c.key c ⟨c.fqn ++ ".php.json"⟩) ∅
  hierarchy := Php.Hierarchy.build classes .ignore

/-- A class that is not published, a published one between, which may extend it, and a published one
that extends the one between. -/
private def withMiddle (methods : List Php.Method) (parents : List String) : Snapshot :=
  withClasses [{ name := "Base", kind := .classKind, methods },
    { name := "Middle", kind := .classKind, isApi := true, parents },
    { name := "Child", kind := .classKind, isApi := true, parents := ["Middle"] }]

/-- A method that a published class inherits from a base that is not published. Both the base drops
the method and the published class between drops the base. -/
theorem assess_major_of_unresolved_base : ∃ r,
    assess {} (withMiddle [{ name := "run" }] ["Base"]) (withMiddle [] []) = .ok r ∧
      r.level = .major := by
  have hmiddle : Php.HeldChain (withMiddle [{ name := "run" }] ["Base"]).php (withMiddle [] []).php
      "run" Php.ClassKind.classKind.context (Name.key "Middle") :=
    .lost rfl (List.mem_singleton_self "Base") rfl (by
      rintro ⟨a, ha, other, hother, -⟩
      obtain rfl := Option.some.inj ha
      exact nomatch hother)
  have hchild : Php.HeldChain (withMiddle [{ name := "run" }] ["Base"]).php (withMiddle [] []).php
      "run" Php.ClassKind.classKind.context (Name.key "Child") :=
    .source rfl (by decide) rfl rfl ⟨_, rfl, "Middle", by decide, rfl⟩ hmiddle
  exact assess_major_of_unresolved rfl (by decide +kernel) (by decide +kernel) (by decide) hchild
    rfl (by decide +kernel)

/-- A published class and its base, which is not published. -/
private def withUnpublishedBase (methods : List Php.Method) : Snapshot :=
  withClasses [{ name := "Base", kind := .classKind, methods },
    { name := "Child", kind := .classKind, isApi := true, parents := ["Base"] }]

/-- Without a condition on the links the bump need not be a major one: a method that is dropped by
a base that is not published is a patch. -/
theorem inherited_method_lost_as_patch : ¬ ∀ (before after : Snapshot) (context : Context)
    (key name : String) (b a : Located Php.ClassLike) (r : Assessment),
    after.hierarchy.policy = .ignore → context ∈ Php.contexts →
    before.php.find? context key = some b → after.php.find? context key = some a →
    b.value.isApi = true → a.value.isApi = true →
    (Php.resolveMethod? before.php b.value name).isSome →
    Php.resolveMethod? after.php a.value name = none →
    assess {} before after = .ok r → r.level = .major := by
  intro hclaim
  have hpatch : ((assess {} (withUnpublishedBase [{ name := "run" }])
      (withUnpublishedBase [])).toOption.map (·.level)) = some .patch := by decide +kernel
  cases hr : assess {} (withUnpublishedBase [{ name := "run" }]) (withUnpublishedBase []) with
  | error e =>
    rw [hr] at hpatch
    exact nomatch hpatch
  | ok r =>
    have hmajor : r.level = .major :=
      hclaim _ _ .classes "child" "run" _ _ r rfl (by decide) rfl rfl rfl rfl (by decide +kernel)
        (by decide +kernel) hr
    rw [hr] at hpatch
    have hlevel : r.level = .patch := Option.some.inj hpatch
    rw [hmajor] at hlevel
    exact nomatch hlevel

end VersionBump
