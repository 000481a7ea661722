import VersionBump.Proofs.InheritedMethods

/-!
# Looking members up by name

Members are compared by key, but an inherited member is looked up by name. Where the members of a
class-like have keys of their own, a property and a constant are found exactly under their keys. A
method is found under its key only by a name that differs from its own in nothing but the case of
ASCII letters, while all letters count without case in its key. For names of ASCII characters that
is the same.

* `ClassLike.LooksUpMembers` says what is found under a name.
* `isSome_inheritedMethod?_iff` says which methods that have moved are found again.
* `lookups_agree_with_keys` is the statement, and `accented_method_lost` a method that is the same
  one by its key and yet is not found.
-/

namespace VersionBump.Php

variable {r : Registry ClassLike} {c d : ClassLike} {name : String}

/-- What is found under a name in a class-like. -/
structure ClassLike.LooksUpMembers (c : ClassLike) (name : String) : Prop where
  method : ∀ m, c.method? name = some m ↔ (m ∈ c.methods ∧ m.key = Text.toLower name) ∧
    Text.equalsIgnoreAsciiCase m.name name = true
  asciiMethod : Text.IsAscii name → (∀ m ∈ c.methods, Text.IsAscii m.name) →
    ∀ m, c.method? name = some m ↔ m ∈ c.methods ∧ m.key = Text.toLower name
  property : ∀ x, c.property? name = some x ↔
    x ∈ c.properties ∧ x.key = Text.dropLeading '$' name
  constant : ∀ k, c.constant? name = some k ↔ k ∈ c.constants ∧ k.key = name

/-- What is found under a name in a class-like whose members have keys of their own. -/
theorem ClassLike.UniqueMemberKeys.looksUpMembers (h : c.UniqueMemberKeys) (name : String) :
    c.LooksUpMembers name where
  method m := by
    rw [ClassLike.method?_eq_some_iff h.1, and_assoc]
    exact and_congr_right fun _ =>
      (and_iff_right_of_imp Text.toLower_eq_of_equalsIgnoreAsciiCase).symm
  asciiMethod hname hnames m := by
    rw [ClassLike.method?_eq_some_iff h.1]
    exact and_congr_right fun hm => Text.equalsIgnoreAsciiCase_iff (hnames m hm) hname
  property x := by
    rw [ClassLike.property?, find?_eq_some_iff_of_unique, beq_iff_eq]
    intro x hx y hy hxkey hykey
    exact h.2.1.eq propertyFamily hx hy ((beq_iff_eq.mp hxkey).trans (beq_iff_eq.mp hykey).symm)
  constant k := by
    rw [ClassLike.constant?, find?_eq_some_iff_of_unique, beq_iff_eq]
    · rfl
    · intro x hx y hy hxname hyname
      exact h.2.2.eq constantFamily hx hy
        ((beq_iff_eq.mp hxname).trans (beq_iff_eq.mp hyname).symm)

/-! ## Members that have moved -/

/-- A method is inherited if one that is shared and has its key can be reached under a spelling of
its name. -/
theorem isSome_inheritedMethod?_iff (h : r.UniqueMemberKeys) (moved : Method) :
    (inheritedMethod? r c moved.name).isSome ↔
      ∃ source ∈ c.sources, ∃ d, Reaches r source d ∧ ∃ m ∈ d.methods, methodFamily.Shared m ∧
        m.key = moved.key ∧ Text.equalsIgnoreAsciiCase m.name moved.name = true := by
  -- A search finds something exactly if a class-like that can be reached has something to offer.
  refine isSome_inherited?_iff.trans (exists_congr fun source => and_congr_right fun _ =>
    exists_congr fun d => and_congr_right fun hd => ?_)
  refine (ClassLike.isSome_sharedMethod?_iff (h d hd.mem_values).1).trans (exists_congr fun m =>
    and_congr_right fun _ => and_congr_right fun _ => ?_)
  exact (and_iff_right_of_imp Text.toLower_eq_of_equalsIgnoreAsciiCase).symm

/-- What becomes of a method that has moved to those that a class-like inherits from. -/
structure FindsMoved (r : Registry ClassLike) (user : ClassLike) (moved : Method) : Prop where
  /-- What is found is the same method by its key. -/
  key : ∀ m, inheritedMethod? r user moved.name = some m → m.key = moved.key
  isSome_iff : (inheritedMethod? r user moved.name).isSome ↔
    ∃ source ∈ user.sources, ∃ d, Reaches r source d ∧ ∃ m ∈ d.methods, methodFamily.Shared m ∧
      m.key = moved.key ∧ Text.equalsIgnoreAsciiCase m.name moved.name = true
  /-- Among ASCII names every method of the key is found. -/
  isSome_iff_of_isAscii : Text.IsAscii moved.name →
    (∀ d ∈ r.values, ∀ m ∈ d.methods, Text.IsAscii m.name) →
    ((inheritedMethod? r user moved.name).isSome ↔ ∃ source ∈ user.sources, ∃ d,
      Reaches r source d ∧ ∃ m ∈ d.methods, methodFamily.Shared m ∧ m.key = moved.key)

/-- A method that has moved is found in the spellings of its name. -/
private theorem findsMoved (h : r.UniqueMemberKeys) (user : ClassLike) (moved : Method) :
    FindsMoved r user moved where
  key m hm := by
    obtain ⟨_, -, d, -, hoffer⟩ := exists_reaches_of_searchPending hm
    exact (key_of_method? (Option.filter_eq_some_iff.mp hoffer).1).2.2
  isSome_iff := isSome_inheritedMethod?_iff h moved
  isSome_iff_of_isAscii hname hnames := by
    refine (isSome_inheritedMethod?_iff h moved).trans (exists_congr fun source =>
      and_congr_right fun _ => exists_congr fun d => and_congr_right fun hd => exists_congr fun m =>
        and_congr_right fun hm => and_congr_right fun _ => and_iff_left_of_imp fun hkey => ?_)
    exact (Text.equalsIgnoreAsciiCase_iff (hnames d hd.mem_values m hm) hname).mpr hkey

/-- Where the members of class-likes have keys of their own, looking up by name agrees with
comparing by key for all properties and constants, and for methods among the spellings of a name that
differ in the case of ASCII letters only. So a method that has moved is found among the inherited ones exactly
if a method of its key, in such a spelling, can be reached. -/
theorem lookups_agree_with_keys (hc : c.UniqueMemberKeys) (hr : r.UniqueMemberKeys) :
    (∀ name, c.LooksUpMembers name) ∧ ∀ user moved, FindsMoved r user moved :=
  ⟨hc.looksUpMembers, findsMoved hr⟩

/-- A published class that extends another one. -/
private def childAndBase (own inherited : List Method) : Registry ClassLike :=
  (Registry.empty.insert .classes "child"
    { name := "Child", kind := .classKind, isApi := true, parents := ["Base"], methods := own }
    ⟨"child.php.json"⟩).insert .classes "base"
    { name := "Base", kind := .classKind, methods := inherited } ⟨"base.php.json"⟩

theorem lookups_agree_with_keys_moved :
    ({ name := "Base", kind := .classKind, methods := [{ name := "Run" }] } : ClassLike).method?
        "run" = some { name := "Run" } ∧
      (inheritedMethod? (childAndBase [] [{ name := "Run" }])
        { name := "Child", kind := .classKind, parents := ["Base"] } "run").isSome := by
  have hc : ({ name := "Base", kind := .classKind, methods := [{ name := "Run" }] } :
      ClassLike).UniqueMemberKeys := by decide +kernel
  have hr : (childAndBase [] [{ name := "Run" }]).UniqueMemberKeys := by decide +kernel
  obtain ⟨hlookup, hmoved⟩ := lookups_agree_with_keys hc hr
  refine ⟨((hlookup "run").asciiMethod (by decide) (by decide) _).mpr (by decide +kernel), ?_⟩
  refine ((hmoved _ { name := "run" }).isSome_iff_of_isAscii (by decide) (by decide +kernel)).mpr ?_
  exact ⟨"Base", List.mem_singleton.mpr rfl, _, .found rfl, { name := "Run" },
    List.mem_singleton.mpr rfl, rfl, by decide +kernel⟩

/-- A method moves to the parent and is respelled. -/
private def accentedMove : Setting where
  table := {}
  hierarchy := {}
  before := childAndBase [{ name := "É" }] []
  after := childAndBase [] [{ name := "é" }]

/-- Under its key a method need not be found: where the case of a letter beyond ASCII has changed,
it is the same method by its key, but lost if it moves to a parent. -/
theorem accented_method_lost :
    (¬ ∀ c : ClassLike, c.UniqueMemberKeys → ∀ (name : String) (m : Method),
        c.method? name = some m ↔ m ∈ c.methods ∧ m.key = Text.toLower name) ∧
      ((publishedDifferences accentedMove (publishedSurface accentedMove.before)
        (publishedSurface accentedMove.after)).toOption.map fun found =>
          found.changes.map fun op => (op.kind, op.level, op.target)) =
        some [(.php .methodRemoved, .major, "Child::É")] := by
  refine ⟨fun hall => ?_, by decide +kernel⟩
  have hfound := (hall { name := "A", kind := .classKind, methods := [{ name := "É" }] }
    (by decide +kernel) "é" { name := "É" }).mpr (by decide +kernel)
  have hnone : ({ name := "A", kind := .classKind, methods := [{ name := "É" }] } :
      ClassLike).method? "é" = none := by decide +kernel
  exact nomatch hnone.symm.trans hfound

end VersionBump.Php
