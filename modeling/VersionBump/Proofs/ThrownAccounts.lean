import VersionBump.Proofs.FoldedNames
import VersionBump.Proofs.Outcomes
import VersionBump.Proofs.ThrownTypes

/-!
# What becomes of thrown types

Every type that a method throws on one side only is accounted for. A new one is reported once. One
that is gone is reported once, or a new one that is related to it stands for it. All of it is
decided by the keys of the types, so neither their order nor their repetition nor their spelling
matters; the first spelling is the one that is shown.

* `verdicts` decides by keys what is reported, and `compareThrows_eq_map` spells it out.
* `verdicts_congr`: lists of the same keys have the same verdicts.
* `Accounts` is what the verdicts on two lists amount to, and `accounts_of_verdicts` shows it.
* `compareThrows_accounts` is the statement.
-/

namespace VersionBump.Php

variable {h : Hierarchy} {p : Pair} {target : String} {location : Path}
  {before after before' after' : List String} {key : String}

/-! ## Thrown keys -/

/-- A type of the key is thrown. -/
def Throws (names : List String) (key : String) : Prop := ∃ name ∈ names, Name.key name = key

/-- A type of the key is thrown after, but none was before. -/
def Gains (before after : List String) (key : String) : Prop :=
  Throws after key ∧ ¬ Throws before key

/-- The first spelling of a key, as it is shown. -/
def shownName (names : List String) (key : String) : String :=
  ((names.find? (Name.key · == key)).map Name.normalize).getD key

/-- A type of the key is found if one is thrown. -/
private theorem exists_find?_of_throws {names : List String} (ht : Throws names key) :
    ∃ name, names.find? (Name.key · == key) = some name ∧ Name.key name = key := by
  obtain ⟨other, hother, hkey⟩ := ht
  obtain ⟨name, hname⟩ := Option.isSome_iff_exists.mp
    (List.find?_isSome (p := (Name.key · == key)).mpr ⟨other, hother, beq_iff_eq.mpr hkey⟩)
  exact ⟨name, hname, by simpa using List.find?_some hname⟩

/-- No type of the key is found if none is thrown. -/
private theorem find?_of_not_throws {names : List String} (ht : ¬ Throws names key) :
    names.find? (Name.key · == key) = none :=
  List.find?_eq_none.mpr fun name hname hkey => ht ⟨name, hname, beq_iff_eq.mp hkey⟩

/-- The spelling that is collected for a key. -/
private theorem find?_set (names : List String) (key : String) :
    (Name.set names).find? key = (names.find? (Name.key · == key)).map Name.normalize := by
  rw [Name.set, KeyMap.find?_ofListFirst, List.find?_map, Option.map_map]
  rfl

/-- The keys that are collected are those that are thrown. -/
theorem contains_set_iff {names : List String} :
    (Name.set names).contains key = true ↔ Throws names key := by
  rw [KeyMap.contains, find?_set, Option.isSome_map, List.find?_isSome]
  simp [Throws]

theorem mem_keys_set_iff {names : List String} : key ∈ (Name.set names).keys ↔ Throws names key :=
  (KeyMap.mem_keys_iff _).trans contains_set_iff

/-- What is collected are the thrown keys, each in its first spelling. -/
theorem toList_set (names : List String) :
    (Name.set names).toList = (Name.set names).keys.map fun key => (key, shownName names key) := by
  have hspelled : ∀ e ∈ (Name.set names).toList, (e.1, shownName names e.1) = e := fun e he => by
    rw [shownName, ← find?_set, KeyMap.find?_of_mem he]
    rfl
  rw [KeyMap.keys, List.map_map]
  exact ((List.map_congr_left hspelled).trans (List.map_id _)).symm

/-- Lists that throw the same keys. -/
def ThrowAlike (names names' : List String) : Prop := ∀ key, Throws names key ↔ Throws names' key

/-- Lists throw the same keys if each key of the one is a key of the other. -/
theorem throwAlike_iff {names names' : List String} :
    ThrowAlike names names' ↔
      names.map Name.key ⊆ names'.map Name.key ∧ names'.map Name.key ⊆ names.map Name.key := by
  have hthrows : ∀ names key, Throws names key ↔ key ∈ names.map Name.key := fun names key =>
    List.mem_map.symm
  simp only [ThrowAlike, hthrows, iff_def, forall_and, List.subset_def]

/-- Keys that are thrown alike are collected alike. -/
theorem ThrowAlike.contains_eq {names names' : List String} (hs : ThrowAlike names names')
    (key : String) : (Name.set names).contains key = (Name.set names').contains key := by
  rw [Bool.eq_iff_iff, contains_set_iff, contains_set_iff, hs key]

/-- The first spelling of a key that is thrown has the normal form of the key as its own key. -/
private theorem key_shownName {names : List String} (ht : Throws names key) :
    Name.key (shownName names key) = Name.normalize key := by
  obtain ⟨name, hname, hkey⟩ := exists_find?_of_throws ht
  rw [shownName, hname, Option.map_some, Option.getD_some, Name.key_normalize, hkey]

/-- A key that is not thrown is shown as it is. -/
private theorem shownName_of_not_throws {names : List String} (ht : ¬ Throws names key) :
    shownName names key = key := by
  rw [shownName, find?_of_not_throws ht]
  rfl

/-- In every spelling a key is looked up alike. -/
theorem ThrowAlike.key_shownName {names names' : List String} (hs : ThrowAlike names names')
    (key : String) : Name.key (shownName names key) = Name.key (shownName names' key) := by
  by_cases ht : Throws names key
  · rw [Php.key_shownName ht, Php.key_shownName ((hs key).mp ht)]
  · rw [shownName_of_not_throws ht, shownName_of_not_throws fun ht' => ht ((hs key).mpr ht')]

/-- Of two lists one after the other the first shows its own spellings. -/
private theorem shownName_append_of_throws {names : List String} (ht : Throws names key)
    (others : List String) : shownName (names ++ others) key = shownName names key := by
  obtain ⟨name, hname, -⟩ := exists_find?_of_throws ht
  rw [shownName, shownName, List.find?_append, hname, Option.some_or]

/-- Where the first list throws no type of the key, the second shows its spelling. -/
private theorem shownName_append_of_not_throws {names : List String} (ht : ¬ Throws names key)
    (others : List String) : shownName (names ++ others) key = shownName others key := by
  rw [shownName, shownName, List.find?_append, find?_of_not_throws ht, Option.none_or]

/-! ## Verdicts -/

/-- The keys that are thrown after but not before, in order. -/
def gainedKeys (before after : List String) : List String :=
  (Name.set after).keys.filter fun key => !(Name.set before).contains key

/-- What is decided about a new key: its kind and the key of the type that it stands for. -/
def judgement (h : Hierarchy) (before after : List String) (key : String) :
    Except Cycle (PhpChange × Option String) :=
  relateThrown h (shownName after key) (Name.set before).toList

/-- What is decided about all new keys. -/
def judgements (h : Hierarchy) (before after : List String) :
    Except Cycle (List (String × PhpChange × Option String)) :=
  (gainedKeys before after).mapM fun key => (judgement h before after key).map (key, ·)

/-- The keys that are gone and that no new one stands for, in order. -/
def lostKeys (before after : List String) (judged : List (String × PhpChange × Option String)) :
    List String :=
  (Name.set before).keys.filter fun key =>
    !(Name.set after).contains key && key ∉ judged.filterMap (·.2.2)

/-- The verdicts that follow from what is decided about all new keys. -/
def reported (before after : List String) (judged : List (String × PhpChange × Option String)) :
    List (String × PhpChange) :=
  judged.map (fun j => (j.1, j.2.1)) ++ (lostKeys before after judged).map (·, .exceptionRemoved)

/-- What is reported about two lists of thrown types, by key. -/
def verdicts (h : Hierarchy) (before after : List String) :
    Except Cycle (List (String × PhpChange)) :=
  (judgements h before after).map (reported before after)

/-- The operation for a verdict, which shows the first spelling. -/
def verdictOp (p : Pair) (target : String) (location : Path) (before after : List String)
    (v : String × PhpChange) : Operation :=
  p.op v.2 (target ++ " throws " ++ shownName (after ++ before) v.1) location

/-- New types are related one by one, by key. -/
private theorem relateAllThrown_map (h : Hierarchy) (previous : List (String × String))
    (spelling : String → String) (keys : List String) :
    relateAllThrown h previous (keys.map fun key => (key, spelling key)) =
      (keys.mapM fun key => (relateThrown h (spelling key) previous).map (key, ·)).map
        (List.map fun j => (spelling j.1, j.2)) := by
  induction keys with
  | nil => rfl
  | cons key keys ih =>
    rw [List.map_cons, relateAllThrown, ih, List.mapM_cons]
    cases relateThrown h (spelling key) previous with
    | error c => rfl
    | ok judged =>
      cases keys.mapM fun key => (relateThrown h (spelling key) previous).map (key, ·) with
      | error c => rfl
      | ok others => rfl

theorem mem_gainedKeys_iff : key ∈ gainedKeys before after ↔ Gains before after key := by
  rw [gainedKeys, List.mem_filter, mem_keys_set_iff, Bool.not_eq_true', ← Bool.not_eq_true,
    contains_set_iff]
  rfl

theorem mem_lostKeys_iff {judged : List (String × PhpChange × Option String)} :
    key ∈ lostKeys before after judged ↔
      Gains after before key ∧ key ∉ judged.filterMap (·.2.2) := by
  rw [lostKeys, List.mem_filter, mem_keys_set_iff, Bool.and_eq_true, Bool.not_eq_true',
    ← Bool.not_eq_true, contains_set_iff, decide_eq_true_eq, Gains, and_assoc]

/-- A traversal that keeps each element beside its result lists the elements with their results. -/
private theorem of_mapM_beside {α β ε : Type} {f : α → Except ε β} {xs : List α} {ys : List (α × β)}
    (hy : (xs.mapM fun x => (f x).map (x, ·)) = .ok ys) :
    ys.map (·.1) = xs ∧ ∀ y ∈ ys, f y.1 = .ok y.2 := by
  have hbeside := mapM_eq_ok_iff.mp hy
  clear hy
  induction hbeside with
  | nil => exact ⟨rfl, nofun⟩
  | cons hx _ ih =>
    obtain ⟨_, hx', rfl⟩ := exists_of_map_eq_ok hx
    exact ⟨congrArg _ ih.1, List.forall_mem_cons.mpr ⟨hx', ih.2⟩⟩

/-- The new keys are judged in order. -/
private theorem of_judgements {judged : List (String × PhpChange × Option String)}
    (hj : judgements h before after = .ok judged) :
    judged.map (·.1) = gainedKeys before after ∧
      ∀ j ∈ judged, judgement h before after j.1 = .ok j.2 :=
  of_mapM_beside hj

/-- The comparison spells the verdicts. -/
theorem compareThrows_eq_map (p : Pair) (target : String) (location : Path)
    (before after : List String) :
    compareThrows p target location before after =
      (verdicts p.setting.hierarchy before after).map
        (List.map (verdictOp p target location before after)) := by
  have hfresh : ((Name.set after).toList.filter fun e => !(Name.set before).contains e.1) =
      (gainedKeys before after).map fun key => (key, shownName after key) := by
    rw [gainedKeys, toList_set after, List.filter_map]
    rfl
  have hgone : ∀ judged : List (String × PhpChange × Option String),
      ((Name.set before).toList.filter fun e => !(Name.set after).contains e.1 &&
          e.1 ∉ (judged.map fun j => (shownName after j.1, j.2)).filterMap (·.2.2)) =
      (lostKeys before after judged).map fun key => (key, shownName before key) := fun judged => by
    rw [lostKeys, toList_set before, List.filter_map, List.filterMap_map]
    rfl
  have hrelated : relateAllThrown p.setting.hierarchy (Name.set before).toList
      ((gainedKeys before after).map fun key => (key, shownName after key)) =
      (judgements p.setting.hierarchy before after).map
        (List.map fun j => (shownName after j.1, j.2)) :=
    relateAllThrown_map _ _ _ _
  simp only [compareThrows, hfresh, hrelated, verdicts]
  cases hj : judgements p.setting.hierarchy before after with
  | error c => rfl
  | ok judged =>
    simp only [Except.map, bind, Except.bind, pure, Except.pure, hgone, reported, List.map_append,
      List.map_map]
    -- The spelling of a new key is the one after, and that of a key that is gone is the one before.
    refine congrArg Except.ok (congrArg₂ _ (List.map_congr_left fun j hmem => ?_)
      (List.map_congr_left fun key hmem => ?_))
    · have hgained : j.1 ∈ gainedKeys before after :=
        (of_judgements hj).1 ▸ List.mem_map_of_mem hmem
      simp only [Function.comp_apply, verdictOp,
        shownName_append_of_throws (mem_gainedKeys_iff.mp hgained).1]
    · simp only [Function.comp_apply, verdictOp,
        shownName_append_of_not_throws (mem_lostKeys_iff.mp hmem).1.2]

/-! ## The same keys -/

/-- Whether a type inherits from another depends on their keys alone. -/
theorem Hierarchy.inheritsFrom_congr {child child' ancestor ancestor' : String}
    (hchild : Name.key child = Name.key child')
    (hancestor : Name.key ancestor = Name.key ancestor') :
    h.inheritsFrom child ancestor = h.inheritsFrom child' ancestor' := by
  simp only [Hierarchy.inheritsFrom, Hierarchy.idOf?, hchild, hancestor]

/-- How a new type relates to those thrown before depends on keys alone. -/
private theorem relateThrown_congr {thrown thrown' : String} {spelling spelling' : String → String}
    (hthrown : Name.key thrown = Name.key thrown')
    (hspelling : ∀ key, Name.key (spelling key) = Name.key (spelling' key)) (keys : List String) :
    relateThrown h thrown (keys.map fun key => (key, spelling key)) =
      relateThrown h thrown' (keys.map fun key => (key, spelling' key)) := by
  -- Along the keys: each step asks about one spelling of a key, and only its own key answers.
  induction keys with
  | nil => rfl
  | cons key keys ih =>
    simp only [List.map_cons, relateThrown, ih,
      Hierarchy.inheritsFrom_congr hthrown (hspelling key),
      Hierarchy.inheritsFrom_congr (hspelling key) hthrown]

/-- Lists that throw the same keys list the same keys. -/
private theorem ThrowAlike.keys_eq {names names' : List String} (hs : ThrowAlike names names') :
    (Name.set names).keys = (Name.set names').keys :=
  KeyMap.keys_eq_of_contains_eq hs.contains_eq

/-- Lists that throw the same keys have the same verdicts. -/
theorem verdicts_congr (hbefore : ThrowAlike before before') (hafter : ThrowAlike after after') :
    verdicts h before after = verdicts h before' after' := by
  -- Each part of the verdicts looks at the keys of a list or at what contains a key.
  have hgained : gainedKeys before after = gainedKeys before' after' := by
    simp only [gainedKeys, hafter.keys_eq, hbefore.contains_eq]
  have hjudgement : judgement h before after = judgement h before' after' := by
    funext key
    rw [judgement, judgement, toList_set before, toList_set before', hbefore.keys_eq]
    exact relateThrown_congr (hafter.key_shownName key) hbefore.key_shownName _
  have hreported : reported before after = reported before' after' := by
    funext judged
    simp only [reported, lostKeys, hbefore.keys_eq, hafter.contains_eq]
  simp only [verdicts, judgements, hgained, hjudgement, hreported]

/-! ## The account -/

/-- The kinds that a new type is reported with. -/
def newKinds : List PhpChange := [.exceptionAdded, .exceptionSubclassed, .exceptionSuperclassed]

/-- A new type stands for one thrown before: one of them inherits from the other, and the kind says
which. -/
inductive StandsFor (h : Hierarchy) (thrown previous : String) : PhpChange → Prop
  | subclass (hbelow : h.inheritsFrom thrown previous = .ok true) :
      StandsFor h thrown previous .exceptionSubclassed
  | superclass (habove : h.inheritsFrom previous thrown = .ok true) :
      StandsFor h thrown previous .exceptionSuperclassed

/-- Verdicts that account for every type: there is at most one for each key, and each is for a key
that is new or gone. Each new key has one, and a key that is gone has one unless a new type stands
for it. -/
structure Accounts (h : Hierarchy) (before after : List String) (vs : List (String × PhpChange)) :
    Prop where
  nodup : (vs.map (·.1)).Nodup
  only : ∀ v ∈ vs, (Gains before after v.1 ∧ v.2 ∈ newKinds) ∨
    (Gains after before v.1 ∧ v.2 = .exceptionRemoved)
  gained : ∀ key, Gains before after key → key ∈ vs.map (·.1)
  lost : ∀ key, Gains after before key → key ∉ vs.map (·.1) →
    ∃ v ∈ vs, Gains before after v.1 ∧ StandsFor h (shownName after v.1) (shownName before key) v.2

/-- What a new type stands for is one of the types thrown before. -/
private theorem exists_standsFor {thrown : String} {previous : List (String × String)}
    {kind : PhpChange} {replaced : Option String}
    (hr : relateThrown h thrown previous = .ok (kind, replaced)) :
    kind ∈ newKinds ∧
      ∀ key ∈ replaced, ∃ e ∈ previous, e.1 = key ∧ StandsFor h thrown e.2 kind := by
  -- The first related type decides, and an unrelated one hands over to the rest.
  induction previous with
  | nil =>
    cases hr
    exact ⟨List.mem_cons_self, nofun⟩
  | cons e rest ih =>
    unfold relateThrown at hr
    obtain ⟨below, hbelow, hr⟩ := exists_of_bind_eq_ok hr
    cases below with
    | true =>
      cases hr
      refine ⟨by decide, fun key hkey => ⟨e, List.mem_cons_self, ?_, .subclass hbelow⟩⟩
      exact Option.some.inj hkey
    | false =>
      obtain ⟨above, habove, hr⟩ := exists_of_bind_eq_ok hr
      cases above with
      | true =>
        cases hr
        refine ⟨by decide, fun key hkey => ⟨e, List.mem_cons_self, ?_, .superclass habove⟩⟩
        exact Option.some.inj hkey
      | false =>
        obtain ⟨hkind, hstands⟩ := ih hr
        refine ⟨hkind, fun key hkey => ?_⟩
        obtain ⟨e', he', hfound⟩ := hstands key hkey
        exact ⟨e', List.mem_cons_of_mem e he', hfound⟩

/-- Keys that are filtered out of a keyed map are distinct. -/
private theorem nodup_filter_keys {ν : Type} (m : KeyMap String ν) (f : String → Bool) :
    (m.keys.filter f).Nodup :=
  List.Nodup.filter _ m.nodup_keys

/-- A key that is new is not gone. -/
theorem Gains.not_gains (hg : Gains before after key) : ¬ Gains after before key :=
  fun hl => hl.2 hg.1

/-- The verdicts account for every type. -/
theorem accounts_of_verdicts {vs : List (String × PhpChange)}
    (hv : verdicts h before after = .ok vs) : Accounts h before after vs := by
  obtain ⟨judged, hj, rfl⟩ := exists_of_map_eq_ok hv
  obtain ⟨hkeys, hjudged⟩ := of_judgements hj
  have hfst : (reported before after judged).map (·.1) =
      gainedKeys before after ++ lostKeys before after judged := by
    simp only [reported, List.map_append, List.map_map, Function.comp_def, List.map_id', ← hkeys]
  have hgained : ∀ j ∈ judged, Gains before after j.1 := fun j hmem =>
    mem_gainedKeys_iff.mp (hkeys ▸ List.mem_map_of_mem hmem)
  refine ⟨?_, fun v hmem => ?_, fun key hgain => ?_, fun key hloss hsilent => ?_⟩
  · -- No key is both new and gone.
    rw [hfst]
    refine List.nodup_append'.mpr ⟨nodup_filter_keys _ _, nodup_filter_keys _ _, ?_⟩
    intro key hnew hgone
    exact (mem_gainedKeys_iff.mp hnew).not_gains (mem_lostKeys_iff.mp hgone).1
  · rcases List.mem_append.mp hmem with hnew | hgone
    · obtain ⟨j, hj, rfl⟩ := List.mem_map.mp hnew
      exact .inl ⟨hgained j hj, (exists_standsFor (hjudged j hj)).1⟩
    · obtain ⟨key, hkey, rfl⟩ := List.mem_map.mp hgone
      exact .inr ⟨(mem_lostKeys_iff.mp hkey).1, rfl⟩
  · rw [hfst]
    exact List.mem_append_left _ (mem_gainedKeys_iff.mpr hgain)
  · -- A key that is gone is left out only if something stands for it.
    have hreplaced : key ∈ judged.filterMap (·.2.2) := by
      by_contra hnot
      rw [hfst] at hsilent
      exact hsilent (List.mem_append_right _ (mem_lostKeys_iff.mpr ⟨hloss, hnot⟩))
    obtain ⟨j, hj, hkey⟩ := List.mem_filterMap.mp hreplaced
    obtain ⟨e, he, rfl, hstands⟩ := (exists_standsFor (hjudged j hj)).2 key hkey
    rw [toList_set, List.mem_map] at he
    obtain ⟨_, -, rfl⟩ := he
    exact ⟨(j.1, j.2.1), List.mem_append_left _ (List.mem_map_of_mem hj), hgained j hj, hstands⟩

/-! ## The operations -/

/-- A key that is thrown is the folded form of its first spelling. -/
private theorem toLower_shownName {names : List String} (ht : Throws names key) :
    Text.toLower (shownName names key) = key := by
  obtain ⟨name, hname, hkey⟩ := exists_find?_of_throws ht
  rw [shownName, hname, Option.map_some, Option.getD_some, ← hkey, Name.key]

/-- Operations for distinct thrown keys have distinct targets. -/
private theorem nodup_targets {vs : List (String × PhpChange)} (ha : Accounts h before after vs) :
    ((vs.map (verdictOp p target location before after)).map (·.target)).Nodup := by
  have hthrown : ∀ v ∈ vs, Throws (after ++ before) v.1 := fun v hv => by
    rcases ha.only v hv with ⟨⟨⟨name, hname, hkey⟩, -⟩, -⟩ | ⟨⟨⟨name, hname, hkey⟩, -⟩, -⟩
    · exact ⟨name, List.mem_append_left _ hname, hkey⟩
    · exact ⟨name, List.mem_append_right _ hname, hkey⟩
  rw [List.map_map]
  refine List.Nodup.map_on (fun v hv w hw heq => ?_) (List.Nodup.of_map _ ha.nodup)
  -- A target ends with a spelling of the key, which has the key as its lower-case form.
  have hshown : shownName (after ++ before) v.1 = shownName (after ++ before) w.1 :=
    String.append_right_inj _ |>.mp heq
  have hkey : v.1 = w.1 := by
    rw [← toLower_shownName (hthrown v hv), hshown, toLower_shownName (hthrown w hw)]
  exact List.inj_on_of_nodup_map ha.nodup hv hw hkey

/-- If the thrown types of two methods can be compared, then what is reported accounts for every
type: one operation, with a target of its own, for each key that is new, one for each that is gone
unless a new type stands for it, and no other. It is the same for all lists that throw the same
keys, up to the spelling that is shown, which is the first one. -/
theorem compareThrows_accounts {ops : List Operation}
    (hok : compareThrows p target location before after = .ok ops) :
    ∃ vs, Accounts p.setting.hierarchy before after vs ∧
      ops = vs.map (verdictOp p target location before after) ∧ (ops.map (·.target)).Nodup ∧
      ∀ before' after', ThrowAlike before before' → ThrowAlike after after' →
        compareThrows p target location before' after' =
          .ok (vs.map (verdictOp p target location before' after')) := by
  rw [compareThrows_eq_map] at hok
  obtain ⟨vs, hv, rfl⟩ := exists_of_map_eq_ok hok
  have ha : Accounts p.setting.hierarchy before after vs := accounts_of_verdicts hv
  refine ⟨vs, ha, rfl, nodup_targets ha, fun before' after' hbefore hafter => ?_⟩
  rw [compareThrows_eq_map, ← verdicts_congr hbefore hafter, hv]
  rfl

/-- A comparison of two methods in a hierarchy of three classes, each of which extends the next. -/
private def chained : Pair where
  setting :=
    { table := {}
      hierarchy := Hierarchy.build [{ name := "A", kind := .classKind, parents := ["B"] },
        { name := "B", kind := .classKind, parents := ["C"] },
        { name := "C", kind := .classKind }] .error
      before := ∅
      after := ∅ }
  context := .classes
  before := default
  after := default

theorem compareThrows_accounts_chained :
    ∃ ops vs, compareThrows chained "run" ⟨"A.json"⟩ ["B", "X"] ["A", "C"] = .ok ops ∧
      Accounts chained.setting.hierarchy ["B", "X"] ["A", "C"] vs ∧
      ops.map (·.target) = ["run throws A", "run throws C", "run throws X"] ∧
      compareThrows chained "run" ⟨"A.json"⟩ ["x", "b", "X"] ["C", "a", "\\A"] = .ok
        (vs.map (verdictOp chained "run" ⟨"A.json"⟩ ["x", "b", "X"] ["C", "a", "\\A"])) := by
  have hops : compareThrows chained "run" ⟨"A.json"⟩ ["B", "X"] ["A", "C"] = .ok
      [chained.op .exceptionSubclassed "run throws A" ⟨"A.json"⟩,
        chained.op .exceptionSuperclassed "run throws C" ⟨"A.json"⟩,
        chained.op .exceptionRemoved "run throws X" ⟨"A.json"⟩] := by decide +kernel
  have hbefore : ThrowAlike ["B", "X"] ["x", "b", "X"] := throwAlike_iff.mpr (by decide +kernel)
  have hafter : ThrowAlike ["A", "C"] ["C", "a", "\\A"] := throwAlike_iff.mpr (by decide +kernel)
  obtain ⟨vs, ha, -, -, hsame⟩ := compareThrows_accounts hops
  exact ⟨_, vs, hops, ha, rfl, hsame _ _ hbefore hafter⟩

end VersionBump.Php
