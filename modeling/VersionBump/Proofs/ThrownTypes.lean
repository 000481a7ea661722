import VersionBump.Php.Comparison
import VersionBump.Proofs.NormalForms
import VersionBump.Proofs.ReachableEntities

/-!
# Thrown types

A type that a method newly throws is held against the types that it threw before, in the order of
their keys, and the first of them that is related to it decides what is reported. That agrees with
the hierarchy, in which a subclass of a type thrown before is harmless, unless a type that the new
one is a superclass of comes before all those that it is a subclass of.

* `Hierarchy.Inherits` is what a hierarchy that ignores cycles answers about two names, and
  `Hierarchy.inherits_iff_descends` says when that is about descendants.
* `Hierarchy.RankedAs` is the kind that a new type has by the hierarchy alone, and
  `Hierarchy.Overtaken` says that the order of keys stands in its way.
* `Hierarchy.FirstRelated` is the kind that the first related type decides.
  `exists_relateThrown` finds it, and `Hierarchy.FirstRelated.judged` compares it with the hierarchy.
* `compareThrows_judges` is the statement, and `subclass_reported_as_superclass` a new type of which
  the order of keys decides.
-/

open Relation (TransGen)

namespace VersionBump.Php

namespace Hierarchy

variable {h : Hierarchy} {thrown : String} {previous : List (String × String)} {kind : PhpChange}

/-! ## Related names -/

/-- Both names are known, and the one denotes the entity of the other or one that extends it, directly
or not. -/
def Inherits (h : Hierarchy) (child ancestor : String) : Prop :=
  ∃ user source, h.idOf? child = some user ∧ h.idOf? ancestor = some source ∧
    (user = source ∨ TransGen h.Extends user source)

/-- Both names are known, and the entity of the one extends that of the other, directly or not. -/
def Descends (h : Hierarchy) (child ancestor : String) : Prop :=
  ∃ user source, h.idOf? child = some user ∧ h.idOf? ancestor = some source ∧
    TransGen h.Extends user source

/-- Neither of two names inherits from the other. -/
def Unrelated (h : Hierarchy) (name other : String) : Prop :=
  ¬ h.Inherits name other ∧ ¬ h.Inherits other name

/-- If cycles are ignored, the question about inheritance is answered by what holds. -/
theorem exists_inheritsFrom (hc : h.Closed) (hp : h.policy = .ignore) (child ancestor : String) :
    ∃ answer, h.inheritsFrom child ancestor = .ok answer ∧
      (answer = true ↔ h.Inherits child ancestor) := by
  obtain ⟨answer, hanswer⟩ := exists_eq_ok_of_isOk (isOk_inheritsFrom hp child ancestor)
  exact ⟨answer, hanswer, inheritsFrom_iff hc hanswer⟩

/-- Names of different entities inherit from one another only as descendants. -/
theorem inherits_iff_descends {child ancestor : String} (hne : Name.key child ≠ Name.key ancestor) :
    h.Inherits child ancestor ↔ h.Descends child ancestor := by
  refine exists_congr fun user => exists_congr fun source => and_congr_right fun huser =>
    and_congr_right fun hsource => or_iff_right fun heq => hne ?_
  rw [(idOf?_eq_some_iff.mp huser).1, (idOf?_eq_some_iff.mp hsource).1, heq]

/-- An entity that extends another is a descendant. -/
theorem descends_of_extends {child ancestor user source : String} (huser : h.idOf? child = some user)
    (hsource : h.idOf? ancestor = some source) (hextends : h.Extends user source) :
    h.Descends child ancestor :=
  ⟨user, source, huser, hsource, .single hextends⟩

/-- A descendant inherits. -/
theorem Descends.inherits {child ancestor : String} (hd : h.Descends child ancestor) :
    h.Inherits child ancestor := by
  obtain ⟨user, source, huser, hsource, hpath⟩ := hd
  exact ⟨user, source, huser, hsource, .inr hpath⟩

/-- Nothing else inherits from an entity that no entity extends. -/
theorem not_inherits_of_edges {child ancestor : String} (hne : Name.key child ≠ Name.key ancestor)
    (hnone : ∀ edge ∈ h.edges, edge.source ≠ Name.key ancestor) : ¬ h.Inherits child ancestor := by
  rw [inherits_iff_descends hne]
  rintro ⟨user, source, -, hsource, hpath⟩
  obtain ⟨last, -, hlast⟩ := TransGen.tail'_iff.mp hpath
  exact hnone _ hlast (idOf?_eq_some_iff.mp hsource).1.symm

/-! ## The kind of a new type -/

/-- The kind of a new type by the hierarchy alone. If it inherits from a type thrown before, it is a
subclass, otherwise, if such a type inherits from it, a superclass, and otherwise an addition. -/
structure RankedAs (h : Hierarchy) (thrown : String) (previous : List (String × String))
    (kind : PhpChange) : Prop where
  subclass : (∃ e ∈ previous, h.Inherits thrown e.2) → kind = .exceptionSubclassed
  superclass : (¬ ∃ e ∈ previous, h.Inherits thrown e.2) →
    (∃ e ∈ previous, h.Inherits e.2 thrown) → kind = .exceptionSuperclassed
  addition : (∀ e ∈ previous, h.Unrelated thrown e.2) →
    kind = .exceptionAdded

/-- The new type inherits from types thrown before, but one that inherits from the new type comes
before all of them in the order of keys. -/
def Overtaken (h : Hierarchy) (thrown : String) (previous : List (String × String)) : Prop :=
  (∃ e ∈ previous, h.Inherits thrown e.2) ∧
    ∃ e ∈ previous, h.Inherits e.2 thrown ∧
      ∀ e' ∈ previous, h.Inherits thrown e'.2 → compare e.1 e'.1 = .lt

/-- A kind that is the one by the hierarchy, unless the order of keys makes a superclass of it. -/
structure Judged (h : Hierarchy) (thrown : String) (previous : List (String × String))
    (kind : PhpChange) : Prop where
  ranked : ¬ h.Overtaken thrown previous → h.RankedAs thrown previous kind
  overtaken : h.Overtaken thrown previous → kind = .exceptionSuperclassed

/-- The kind that the first related type thrown before decides. -/
inductive FirstRelated (h : Hierarchy) (thrown : String) : List (String × String) → PhpChange → Prop
  | addition {previous : List (String × String)}
      (hnone : ∀ e ∈ previous, h.Unrelated thrown e.2) :
      FirstRelated h thrown previous .exceptionAdded
  | subclass {front back : List (String × String)} {e : String × String}
      (hfront : ∀ e' ∈ front, h.Unrelated thrown e'.2)
      (hbelow : h.Inherits thrown e.2) :
      FirstRelated h thrown (front ++ e :: back) .exceptionSubclassed
  | superclass {front back : List (String × String)} {e : String × String}
      (hfront : ∀ e' ∈ front, h.Unrelated thrown e'.2)
      (hbelow : ¬ h.Inherits thrown e.2) (habove : h.Inherits e.2 thrown) :
      FirstRelated h thrown (front ++ e :: back) .exceptionSuperclassed

/-- An unrelated type in front decides nothing. -/
theorem FirstRelated.cons (hf : h.FirstRelated thrown previous kind) {e : String × String}
    (hfirst : h.Unrelated thrown e.2) : h.FirstRelated thrown (e :: previous) kind := by
  cases hf with
  | addition hnone => exact .addition (List.forall_mem_cons.mpr ⟨hfirst, hnone⟩)
  | @subclass front back x hfront hx =>
    have hall : ∀ e' ∈ e :: front, h.Unrelated thrown e'.2 :=
      List.forall_mem_cons.mpr ⟨hfirst, hfront⟩
    exact (.subclass hall hx : h.FirstRelated thrown ((e :: front) ++ x :: back) _)
  | @superclass front back x hfront hx hx' =>
    have hall : ∀ e' ∈ e :: front, h.Unrelated thrown e'.2 :=
      List.forall_mem_cons.mpr ⟨hfirst, hfront⟩
    exact (.superclass hall hx hx' : h.FirstRelated thrown ((e :: front) ++ x :: back) _)

/-- If the new type inherits from the first related one, no type below it comes before. -/
private theorem not_overtaken {front back : List (String × String)} {e : String × String}
    (hsorted : SortedEntries (front ++ e :: back))
    (hfront : ∀ e' ∈ front, h.Unrelated thrown e'.2)
    (hbelow : h.Inherits thrown e.2) : ¬ h.Overtaken thrown (front ++ e :: back) := by
  rintro ⟨-, other, hother, habove, hbefore⟩
  have hlt : compare other.1 e.1 = .lt :=
    hbefore e (List.mem_append_right _ List.mem_cons_self) hbelow
  rcases List.mem_append.mp hother with hother | hother
  · exact (hfront other hother).2 habove
  · have hnotlt : compare other.1 e.1 ≠ .lt := by
      rcases List.mem_cons.mp hother with rfl | hother
      · simp [Std.ReflOrd.compare_self]
      · simp [Std.OrientedCmp.gt_of_lt (KeyMap.lt_of_sortedEntries hsorted hother)]
    exact hnotlt hlt

/-- If only the first related type inherits from the new one, that comes before all types above. -/
private theorem overtaken_of_inherits {front back : List (String × String)} {e : String × String}
    (hsorted : SortedEntries (front ++ e :: back))
    (hfront : ∀ e' ∈ front, h.Unrelated thrown e'.2)
    (hbelow : ¬ h.Inherits thrown e.2) (habove : h.Inherits e.2 thrown)
    (hsome : ∃ e' ∈ front ++ e :: back, h.Inherits thrown e'.2) :
    h.Overtaken thrown (front ++ e :: back) := by
  refine ⟨hsome, e, List.mem_append_right _ List.mem_cons_self, habove, fun other hother hin => ?_⟩
  rcases List.mem_append.mp hother with hother | hother
  · exact absurd hin (hfront other hother).1
  · rcases List.mem_cons.mp hother with rfl | hother
    · exact absurd hin hbelow
    · exact KeyMap.lt_of_sortedEntries hsorted hother

/-- What the first related type decides is the kind by the hierarchy, unless that type is below the
new one and comes before all types above it. -/
theorem FirstRelated.judged (hf : h.FirstRelated thrown previous kind)
    (hsorted : SortedEntries previous) : h.Judged thrown previous kind := by
  cases hf with
  | addition hnone =>
    have hnot : ¬ ∃ e ∈ previous, h.Inherits thrown e.2 := by
      rintro ⟨e, he, hbelow⟩
      exact (hnone e he).1 hbelow
    refine ⟨fun _ => ⟨fun hsome => absurd hsome hnot, ?_, fun _ => rfl⟩,
      fun hover => absurd hover.1 hnot⟩
    rintro - ⟨e, he, habove⟩
    exact absurd habove (hnone e he).2
  | @subclass front back e hfront hbelow =>
    have hmem : e ∈ front ++ e :: back := List.mem_append_right _ List.mem_cons_self
    exact ⟨fun _ => ⟨fun _ => rfl, fun hnone => absurd ⟨e, hmem, hbelow⟩ hnone,
      fun hnone => absurd hbelow (hnone e hmem).1⟩,
      fun hover => absurd hover (not_overtaken hsorted hfront hbelow)⟩
  | @superclass front back e hfront hbelow habove =>
    have hmem : e ∈ front ++ e :: back := List.mem_append_right _ List.mem_cons_self
    refine ⟨fun hfree => ⟨fun hsome => ?_, fun _ _ => rfl,
      fun hnone => absurd habove (hnone e hmem).2⟩, fun _ => rfl⟩
    exact absurd (overtaken_of_inherits hsorted hfront hbelow habove hsome) hfree

end Hierarchy

/-! ## The comparison -/

variable {h : Hierarchy} {p : Pair} {before after : List String} {e e' : String × String}

/-- The types that are thrown after but not before, with their keys. -/
def newTypes (before after : List String) : List (String × String) :=
  (Name.set after).toList.filter fun e => !(Name.set before).contains e.1

/-- If the thrown types are stable, each of them is looked up under its key. -/
theorem key_of_mem_set {names : List String} (hstable : ∀ name ∈ names, Name.Stable name)
    (he : e ∈ (Name.set names).toList) : Name.key e.2 = e.1 := by
  have hfind : (Name.set names).find? e.1 = some e.2 := KeyMap.find?_of_mem he
  rw [Name.set, KeyMap.find?_ofListFirst, Option.map_eq_some_iff] at hfind
  obtain ⟨x, hx, hvalue⟩ := hfind
  obtain ⟨name, hname, rfl⟩ := List.mem_map.mp (List.mem_of_find?_eq_some hx)
  have hkey : Name.key name = e.1 := by simpa using List.find?_some hx
  rw [← hvalue, ← hkey]
  exact (Name.key_normalize_iff name).mpr (hstable name hname)

/-- A new type and one thrown before have different keys. -/
theorem key_ne_of_newTypes (hstable : ∀ name ∈ before ++ after, Name.Stable name)
    (he : e ∈ newTypes before after) (he' : e' ∈ (Name.set before).toList) :
    Name.key e.2 ≠ Name.key e'.2 := by
  obtain ⟨hmem, hnew⟩ := List.mem_filter.mp he
  rw [key_of_mem_set (fun name hname => hstable name (List.mem_append_right _ hname)) hmem,
    key_of_mem_set (fun name hname => hstable name (List.mem_append_left _ hname)) he']
  intro heq
  have hthrown : (Name.set before).contains e.1 = true := by
    rw [heq, KeyMap.contains, KeyMap.find?_of_mem he', Option.isSome_some]
  rw [hthrown] at hnew
  exact Bool.false_ne_true hnew

/-- The first related type decides about a new one. -/
theorem exists_relateThrown (hc : h.Closed) (hp : h.policy = .ignore)
    (previous : List (String × String)) (thrown : String) :
    ∃ related, relateThrown h thrown previous = .ok related ∧
      h.FirstRelated thrown previous related.1 := by
  -- The list is gone through from the front, and only an unrelated type is passed by.
  induction previous with
  | nil => exact ⟨_, rfl, .addition nofun⟩
  | cons e rest ih =>
    obtain ⟨below, hbelow, hbelowiff⟩ := Hierarchy.exists_inheritsFrom hc hp thrown e.2
    obtain ⟨above, habove, haboveiff⟩ := Hierarchy.exists_inheritsFrom hc hp e.2 thrown
    unfold relateThrown
    simp only [hbelow, habove]
    cases below with
    | true =>
      have hbelow : h.Inherits thrown e.2 := hbelowiff.mp rfl
      exact ⟨_, rfl, (.subclass nofun hbelow : h.FirstRelated thrown ([] ++ e :: rest) _)⟩
    | false =>
      have hbelow : ¬ h.Inherits thrown e.2 := fun hin => Bool.false_ne_true (hbelowiff.mpr hin)
      cases above with
      | true =>
        have habove : h.Inherits e.2 thrown := haboveiff.mp rfl
        exact ⟨_, rfl, (.superclass nofun hbelow habove :
          h.FirstRelated thrown ([] ++ e :: rest) _)⟩
      | false =>
        have habove : ¬ h.Inherits e.2 thrown := fun hin => Bool.false_ne_true (haboveiff.mpr hin)
        obtain ⟨related, hrest, hfirst⟩ := ih
        exact ⟨related, hrest, hfirst.cons ⟨hbelow, habove⟩⟩

/-- New types are related one by one. -/
theorem relateAllThrown_eq_map {previous : List (String × String)}
    {related : String → PhpChange × Option String}
    (hrelated : ∀ thrown, relateThrown h thrown previous = .ok (related thrown))
    (fresh : List (String × String)) :
    relateAllThrown h previous fresh = .ok (fresh.map fun e => (e.2, related e.2)) := by
  induction fresh with
  | nil => rfl
  | cons e rest ih =>
    simp only [relateAllThrown, hrelated, ih]
    rfl

/-- A comparison reports each new type with the kind that it is judged to have, and behind those the
types that are gone. -/
theorem exists_compareThrows (hc : p.setting.hierarchy.Closed)
    (hp : p.setting.hierarchy.policy = .ignore) (target : String) (location : Path)
    (before after : List String) :
    ∃ (kind : String → PhpChange) (gone : List (String × String)),
      compareThrows p target location before after = .ok
        ((newTypes before after).map
            (fun e => p.op (kind e.2) (target ++ " throws " ++ e.2) location) ++
          gone.map fun e => p.op .exceptionRemoved (target ++ " throws " ++ e.2) location) ∧
      ∀ thrown, p.setting.hierarchy.Judged thrown (Name.set before).toList (kind thrown) := by
  choose related hrelated hfirst using exists_relateThrown hc hp (Name.set before).toList
  have hjudged : ∀ thrown, p.setting.hierarchy.Judged thrown (Name.set before).toList
      (related thrown).1 := fun thrown => (hfirst thrown).judged (Name.set before).sorted
  have hrelate := relateAllThrown_eq_map hrelated (newTypes before after)
  rw [newTypes] at hrelate
  refine ⟨fun thrown => (related thrown).1, ?_⟩
  simp only [compareThrows, hrelate, bind, Except.bind, pure, Except.pure, List.map_map,
    Function.comp_def, newTypes]
  exact ⟨_, rfl, hjudged⟩

/-- If cycles are ignored, the thrown types of any two methods can be compared, and each type that
is thrown after but not before is reported, in the order of keys. Unless the order of keys stands in
the way, it is reported as a subclass if it inherits from a type thrown before, otherwise as a
superclass if such a type inherits from it, and otherwise as an addition. If the order of keys stands
in the way, it is a superclass. To inherit is to descend if the names are stable. -/
theorem compareThrows_judges (ha : p.setting.hierarchy.Arises .ignore) (target : String)
    (location : Path) (before after : List String) :
    ∃ (kind : String → PhpChange) (gone : List (String × String)),
      compareThrows p target location before after = .ok
        ((newTypes before after).map
            (fun e => p.op (kind e.2) (target ++ " throws " ++ e.2) location) ++
          gone.map fun e => p.op .exceptionRemoved (target ++ " throws " ++ e.2) location) ∧
      (∀ thrown, p.setting.hierarchy.Judged thrown (Name.set before).toList (kind thrown)) ∧
      ((∀ name ∈ before ++ after, Name.Stable name) →
        ∀ e ∈ newTypes before after, ∀ e' ∈ (Name.set before).toList,
          (p.setting.hierarchy.Inherits e.2 e'.2 ↔ p.setting.hierarchy.Descends e.2 e'.2) ∧
          (p.setting.hierarchy.Inherits e'.2 e.2 ↔ p.setting.hierarchy.Descends e'.2 e.2)) := by
  obtain ⟨kind, gone, hcompare, hjudged⟩ :=
    exists_compareThrows ha.closed ha.policy_eq target location before after
  refine ⟨kind, gone, hcompare, hjudged, fun hstable e he e' he' => ?_⟩
  have hne : Name.key e.2 ≠ Name.key e'.2 := key_ne_of_newTypes hstable he he'
  exact ⟨Hierarchy.inherits_iff_descends hne, Hierarchy.inherits_iff_descends hne.symm⟩

/-- A comparison in the hierarchy of three classes, in which `M` extends one and is extended by the
other. -/
private def between (below above : String) : Pair where
  setting :=
    { table := {}
      hierarchy := Hierarchy.build [{ name := below, kind := .classKind, parents := ["M"] },
        { name := "M", kind := .classKind, parents := [above] },
        { name := above, kind := .classKind }] .ignore
      before := ∅
      after := ∅ }
  context := .classes
  before := default
  after := default

theorem compareThrows_judges_subclass :
    (between "B" "A").setting.hierarchy.Arises .ignore ∧
      (∀ name ∈ ["A", "B"] ++ ["A", "B", "M"], Name.Stable name) ∧
      (between "B" "A").setting.hierarchy.Descends "M" "A" ∧
      ∃ ops, compareThrows (between "B" "A") "run" ⟨"A.json"⟩ ["A", "B"] ["A", "B", "M"] = .ok ops ∧
        (between "B" "A").op .exceptionSubclassed "run throws M" ⟨"A.json"⟩ ∈ ops := by
  have ha : (between "B" "A").setting.hierarchy.Arises .ignore := Hierarchy.arises_build _ _
  have hstable : ∀ name ∈ ["A", "B"] ++ ["A", "B", "M"], Name.Stable name := by decide +kernel
  have hold : (Name.set ["A", "B"]).toList = [("a", "A"), ("b", "B")] := by decide +kernel
  have hnew : newTypes ["A", "B"] ["A", "B", "M"] = [("m", "M")] := by decide +kernel
  have hedge : (⟨"m", .inherits, "a"⟩ : Edge) ∈ (between "B" "A").setting.hierarchy.edges := by
    decide +kernel
  have hbelow : (between "B" "A").setting.hierarchy.Descends "M" "A" :=
    Hierarchy.descends_of_extends (by decide +kernel) (by decide +kernel) hedge
  obtain ⟨kind, gone, hcompare, hjudged, hdescends⟩ :=
    compareThrows_judges ha "run" ⟨"A.json"⟩ ["A", "B"] ["A", "B", "M"]
  rw [hold] at hjudged hdescends
  rw [hnew, List.map_singleton] at hcompare
  have hinherits := ((hdescends hstable ("m", "M") (by rw [hnew]; exact List.mem_cons_self)
    ("a", "A") List.mem_cons_self).1).mpr hbelow
  -- Nothing comes before the type that the new one descends from.
  have hfirst : ∀ e ∈ [("a", "A"), ("b", "B")], compare e.1 "a" ≠ .lt := by decide +kernel
  have hfree : ¬ (between "B" "A").setting.hierarchy.Overtaken "M" [("a", "A"), ("b", "B")] := by
    rintro ⟨-, e, he, -, hbefore⟩
    exact hfirst e he (hbefore ("a", "A") List.mem_cons_self hinherits)
  have hkind : kind "M" = .exceptionSubclassed :=
    ((hjudged "M").ranked hfree).subclass ⟨("a", "A"), List.mem_cons_self, hinherits⟩
  rw [hkind] at hcompare
  exact ⟨ha, hstable, hbelow, _, hcompare, List.mem_append_left _ (List.mem_singleton.mpr rfl)⟩

/-- The one above comes behind the one below in the order of keys. -/
private theorem overtaken_between :
    (between "A" "Z").setting.hierarchy.Descends "M" "Z" ∧
      (between "A" "Z").setting.hierarchy.Overtaken "M" (Name.set ["A", "Z"]).toList := by
  have hold : (Name.set ["A", "Z"]).toList = [("a", "A"), ("z", "Z")] := by decide +kernel
  have hmiddle : (between "A" "Z").setting.hierarchy.idOf? "M" = some "m" := by decide +kernel
  have hlow : (⟨"a", .inherits, "m"⟩ : Edge) ∈ (between "A" "Z").setting.hierarchy.edges := by
    decide +kernel
  have hhigh : (⟨"m", .inherits, "z"⟩ : Edge) ∈ (between "A" "Z").setting.hierarchy.edges := by
    decide +kernel
  have habove : (between "A" "Z").setting.hierarchy.Descends "M" "Z" :=
    Hierarchy.descends_of_extends hmiddle (by decide +kernel) hhigh
  have hbelow : (between "A" "Z").setting.hierarchy.Descends "A" "M" :=
    Hierarchy.descends_of_extends (by decide +kernel) hmiddle hlow
  have hunrelated : ¬ (between "A" "Z").setting.hierarchy.Inherits "M" "A" :=
    Hierarchy.not_inherits_of_edges (by decide +kernel) (by decide +kernel)
  refine ⟨habove, ?_⟩
  rw [hold]
  refine ⟨⟨("z", "Z"), by decide, habove.inherits⟩, ("a", "A"), by decide, hbelow.inherits, ?_⟩
  rintro e he hin
  rcases List.mem_cons.mp he with rfl | he
  · exact absurd hin hunrelated
  · obtain rfl := List.mem_singleton.mp he
    decide +kernel

/-- In the order of keys a type below the new one may hide one above it: a new type that descends from
a type thrown before is reported as a superclass. -/
theorem subclass_reported_as_superclass :
    (between "A" "Z").setting.hierarchy.Descends "M" "Z" ∧
      (∃ ops, compareThrows (between "A" "Z") "run" ⟨"A.json"⟩ ["A", "Z"] ["A", "Z", "M"] = .ok ops ∧
        (between "A" "Z").op .exceptionSuperclassed "run throws M" ⟨"A.json"⟩ ∈ ops) ∧
      ¬ ∀ (p : Pair) target location before after ops, p.setting.hierarchy.Arises .ignore →
        compareThrows p target location before after = .ok ops → ∀ e ∈ newTypes before after,
          (∃ e' ∈ (Name.set before).toList, p.setting.hierarchy.Descends e.2 e'.2) →
            p.op .exceptionSubclassed (target ++ " throws " ++ e.2) location ∈ ops := by
  obtain ⟨hdescends, hovertaken⟩ := overtaken_between
  have ha : (between "A" "Z").setting.hierarchy.Arises .ignore := Hierarchy.arises_build _ _
  have hnew : newTypes ["A", "Z"] ["A", "Z", "M"] = [("m", "M")] := by decide +kernel
  have hold : ("z", "Z") ∈ (Name.set ["A", "Z"]).toList := by decide +kernel
  obtain ⟨kind, gone, hcompare, hjudged⟩ :=
    exists_compareThrows ha.closed ha.policy_eq "run" ⟨"A.json"⟩ ["A", "Z"] ["A", "Z", "M"]
  rw [hnew, List.map_singleton, (hjudged "M").overtaken hovertaken] at hcompare
  refine ⟨hdescends, ⟨_, hcompare, List.mem_append_left _ (List.mem_singleton.mpr rfl)⟩,
    fun hall => ?_⟩
  have hmem := hall _ _ _ _ _ _ ha hcompare ("m", "M") (by rw [hnew]; exact List.mem_cons_self)
    ⟨("z", "Z"), hold, hdescends⟩
  -- What is reported is one superclass and the types that are gone.
  rcases List.mem_append.mp hmem with hfirst | hgone
  · have hkind : Change.php .exceptionSubclassed = .php .exceptionSuperclassed :=
      congrArg Operation.kind (List.mem_singleton.mp hfirst)
    exact absurd hkind (by decide)
  · obtain ⟨e, -, he⟩ := List.mem_map.mp hgone
    have hkind : Change.php .exceptionRemoved = .php .exceptionSubclassed :=
      congrArg Operation.kind he
    exact absurd hkind (by decide)

end VersionBump.Php
