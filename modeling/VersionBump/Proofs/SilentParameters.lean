import VersionBump.Proofs.CosmeticRewrites

/-!
# Parameters that are compared in silence

If two parameter lists are compared and nothing is reported, then they are of one length and agree
place by place: in the type and where it stands, in whether an argument may be left out, and in the
defaults where both have one. An argument may be left out of a parameter with a default and of a
variadic one, so a default may still stand on one side where the other side is variadic.

* `Param.Agrees` is what two parameters at one place have in common, and `Param.Agrees.default_eq`
  and `Param.Agrees.variadic_eq` say when that includes the default and the variadic mark.
* `compareTypes_eq_nil_iff`, `compareParam_eq_nil_iff` and `compareParams_eq_nil_iff` say exactly
  when nothing is reported.
* `agree_of_compareParams_eq_nil` is the statement, and `variadic_replaced_in_silence` shows that
  the two marks may change places.
-/

namespace VersionBump.Php

variable {p : Pair} {method target : String} {location : Path}

/-- Parameters of one type, an argument of which may be left out in the same calls, with one default
if both have any. -/
structure Param.Agrees (old new : Param) : Prop where
  type : SameAnnotation old.type new.type
  optional : old.isOptional = new.isOptional
  default : ∀ before ∈ old.default, ∀ after ∈ new.default, before = after

/-- Where no parameter is variadic, the defaults agree. -/
theorem Param.Agrees.default_eq {old new : Param} (h : old.Agrees new)
    (hold : old.variadic = false) (hnew : new.variadic = false) : old.default = new.default := by
  have hsome : old.default.isSome = new.default.isSome := by
    simpa [isOptional, hold, hnew] using h.optional
  cases hb : old.default with
  | none =>
    rw [hb] at hsome
    exact (Option.isSome_eq_false_iff.mp hsome.symm |> Option.isNone_iff_eq_none.mp).symm
  | some before =>
    rw [hb] at hsome
    obtain ⟨after, ha⟩ := Option.isSome_iff_exists.mp hsome.symm
    rw [ha, h.default before hb after ha]

/-- Where no parameter has a default, the variadic marks agree. -/
theorem Param.Agrees.variadic_eq {old new : Param} (h : old.Agrees new)
    (hold : old.default = none) (hnew : new.default = none) : old.variadic = new.variadic := by
  simpa [isOptional, hold, hnew] using h.optional

/-! ## One place -/

/-- An annotation has moved unless it stands where it stood. -/
private theorem typeMove?_eq_none_iff {before after : TypeSource} :
    typeMove? before after = none ↔ before = after := by
  cases before <;> cases after <;> decide

/-- Two annotations are compared in silence exactly if they name one type in one place. -/
theorem compareTypes_eq_nil_iff {slot : TypeSlot} {kind : PhpChange} {old new : Option TypeDecl} :
    compareTypes p slot kind target location old new = [] ↔ SameAnnotation old new := by
  refine ⟨fun h => ?_, compareTypes_eq_nil p target location slot kind⟩
  cases old with
  | none =>
    cases new with
    | none => trivial
    | some new => exact nomatch h
  | some old =>
    cases new with
    | none => exact nomatch h
    | some new =>
      by_cases hsame : old.same new = true
      · have hmove : typeMove? old.source new.source = none := by
          simpa [compareTypes, hsame] using h
        exact ⟨hsame, typeMove?_eq_none_iff.mp hmove⟩
      · simp [compareTypes, hsame] at h

/-- A flag of which both changes are reported is compared in silence exactly if it stays. -/
private theorem compareFlag_eq_nil_iff {raised dropped : PhpChange} {before after : Bool} :
    compareFlag p (some raised) (some dropped) target location before after = [] ↔
      before = after := by
  cases before <;> cases after <;> simp [compareFlag]

/-- Two parameters at one place are compared in silence exactly if they agree. -/
theorem compareParam_eq_nil_iff {old new : Param} :
    compareParam p method location old new = [] ↔ old.Agrees new := by
  rw [compareParam, List.append_eq_nil_iff, List.append_eq_nil_iff, compareTypes_eq_nil_iff,
    compareFlag_eq_nil_iff, and_assoc]
  constructor
  · rintro ⟨htype, hoptional, hdefault⟩
    refine ⟨htype, hoptional, fun before hb after ha => ?_⟩
    rw [Option.mem_def] at hb ha
    simpa [hb, ha] using hdefault
  · intro h
    refine ⟨h.type, h.optional, ?_⟩
    split
    case h_1 before after hb ha => exact if_pos (h.default before hb after ha)
    case h_2 => rfl

/-! ## Whole lists -/

/-- Two parameter lists are compared in silence exactly if they agree place by place. -/
theorem compareParams_eq_nil_iff {before after : List Param} :
    compareParams p method location before after = [] ↔ List.Forall₂ Param.Agrees before after := by
  -- The lists are walked in step, and a parameter without a counterpart is always reported.
  induction before generalizing after with
  | nil =>
    cases after with
    | nil => exact iff_of_true (by simp [compareParams]) .nil
    | cons new news =>
      refine iff_of_false (by simp [compareParams]) fun h => ?_
      cases h
  | cons old olds ih =>
    cases after with
    | nil =>
      refine iff_of_false (by simp [compareParams]) fun h => ?_
      cases h
    | cons new news =>
      rw [compareParams, List.append_eq_nil_iff, compareParam_eq_nil_iff, ih,
        List.forall₂_cons]

/-- If nothing is reported about two parameter lists, then they are of one length, and at every
place the parameters agree in the type, in whether an argument may be left out and in the defaults
where both have one. So they agree in the default unless one is variadic, and in the variadic mark unless
one has a default. -/
theorem agree_of_compareParams_eq_nil {before after : List Param}
    (h : compareParams p method location before after = []) :
    before.length = after.length ∧
      ∀ (i : Nat) (old new : Param), before[i]? = some old → after[i]? = some new →
        old.Agrees new ∧
          (old.variadic = false → new.variadic = false → old.default = new.default) ∧
          (old.default = none → new.default = none → old.variadic = new.variadic) := by
  obtain ⟨hlength, hplaces⟩ := List.forall₂_iff_get.mp (compareParams_eq_nil_iff.mp h)
  refine ⟨hlength, fun i old new hold hnew => ?_⟩
  obtain ⟨hi, rfl⟩ := List.getElem?_eq_some_iff.mp hold
  obtain ⟨hi', rfl⟩ := List.getElem?_eq_some_iff.mp hnew
  have hagrees := hplaces i hi hi'
  exact ⟨hagrees, hagrees.default_eq, hagrees.variadic_eq⟩

/-- A comparison of two methods of a class. -/
private def signatures : Pair where
  setting := { table := {}, hierarchy := {}, before := ∅, after := ∅ }
  context := .classes
  before := default
  after := default

theorem agree_of_compareParams_eq_nil_renamed :
    compareParams signatures "run" ⟨"A.json"⟩
        [{ name := "a", default := some "1" }, { name := "rest", variadic := true }]
        [{ name := "b", default := some "1" }, { name := "more", variadic := true }] = [] ∧
      Param.Agrees { name := "a", default := some "1" } { name := "b", default := some "1" } ∧
      Param.Agrees { name := "rest", variadic := true } { name := "more", variadic := true } := by
  have hsilent : compareParams signatures "run" ⟨"A.json"⟩
      [{ name := "a", default := some "1" }, { name := "rest", variadic := true }]
      [{ name := "b", default := some "1" }, { name := "more", variadic := true }] = [] := by
    simp [compareParams, compareParam, compareTypes, compareFlag, Param.isOptional]
  obtain ⟨-, hplaces⟩ := agree_of_compareParams_eq_nil hsilent
  exact ⟨hsilent, (hplaces 0 _ _ rfl rfl).1, (hplaces 1 _ _ rfl rfl).1⟩

/-- A variadic parameter may be replaced with one that has a default, and a parameter that keeps its
default may become variadic: nothing is reported, although more than names differ. -/
theorem variadic_replaced_in_silence :
    compareParams signatures "run" ⟨"A.json"⟩ [{ name := "a", variadic := true }]
        [{ name := "a", default := some "[]" }] = [] ∧
      compareParams signatures "run" ⟨"A.json"⟩ [{ name := "a", default := some "[]" }]
        [{ name := "a", default := some "[]", variadic := true }] = [] ∧
      ¬ ∀ (p : Pair) (method : String) (location : Path) (before after : List Param),
        compareParams p method location before after = [] →
          List.Forall₂ Param.Cosmetic before after := by
  have hreplaced : compareParams signatures "run" ⟨"A.json"⟩ [{ name := "a", variadic := true }]
      [{ name := "a", default := some "[]" }] = [] :=
    compareParams_eq_nil_iff.mpr (.cons ⟨trivial, rfl, nofun⟩ .nil)
  have hmarked : compareParams signatures "run" ⟨"A.json"⟩ [{ name := "a", default := some "[]" }]
      [{ name := "a", default := some "[]", variadic := true }] = [] :=
    compareParams_eq_nil_iff.mpr
      (.cons ⟨trivial, rfl, fun _ hb _ ha => Option.some.inj (hb.symm.trans ha)⟩ .nil)
  refine ⟨hreplaced, hmarked, fun hall => ?_⟩
  have hcosmetic := (List.forall₂_cons.mp (hall _ _ _ _ _ hreplaced)).1
  exact nomatch hcosmetic.default

end VersionBump.Php
