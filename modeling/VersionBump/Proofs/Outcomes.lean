import Mathlib.Data.List.Forall2

/-!
# Outcomes

A comparison either succeeds with a result or fails with a complaint. These lemmas follow an outcome
through sequences of steps and traversals.

* `exists_of_bind_eq_ok`, `exists_of_map_eq_ok` and `mapError_eq_ok_iff` go from the success of the
  whole to that of its parts, and `mapM_eq_ok_iff` to that of each element and back.
* `isOk_bind`, `isOk_map` and `isOk_mapError` go from the parts to the whole.
-/

namespace VersionBump

variable {α β ε ε' : Type}

/-- What succeeds has a result. -/
theorem exists_eq_ok_of_isOk {x : Except ε α} (h : x.isOk) : ∃ a, x = .ok a := by
  cases x with
  | error e => exact nomatch h
  | ok a => exact ⟨a, rfl⟩

/-- What gives something when complaints are ignored has succeeded with it. -/
theorem eq_ok_of_toOption {x : Except ε α} {a : α} (h : x.toOption = some a) : x = .ok a := by
  cases x with
  | error e => exact nomatch h
  | ok b => exact congrArg Except.ok (Option.some.inj h)

/-! ## From the whole to its parts -/

/-- A sequence that succeeds does so at its first step and at the rest. -/
theorem exists_of_bind_eq_ok {x : Except ε α} {f : α → Except ε β} {b : β}
    (h : (x >>= f) = .ok b) : ∃ a, x = .ok a ∧ f a = .ok b := by
  cases x with
  | error e => exact nomatch h
  | ok a => exact ⟨a, rfl, h⟩

/-- Changing the result of what fails does not make it succeed. -/
theorem exists_of_map_eq_ok {x : Except ε α} {f : α → β} {b : β} (h : x.map f = .ok b) :
    ∃ a, x = .ok a ∧ f a = b := by
  cases x with
  | error e => exact nomatch h
  | ok a => exact ⟨a, rfl, Except.ok.inj h⟩

/-- Replacing the complaint of what fails does not make it succeed. -/
theorem mapError_eq_ok_iff {f : ε → ε'} {x : Except ε α} {a : α} :
    x.mapError f = .ok a ↔ x = .ok a := by
  cases x with
  | error e => exact iff_of_false nofun nofun
  | ok b =>
    constructor
    · intro h
      cases h
      rfl
    · intro h
      cases h
      rfl

/-- A traversal succeeds with the results of the elements in order. -/
theorem mapM_eq_ok_iff {f : α → Except ε β} {xs : List α} {ys : List β} :
    xs.mapM f = .ok ys ↔ List.Forall₂ (fun x y => f x = .ok y) xs ys := by
  constructor
  · intro h
    induction xs generalizing ys with
    | nil =>
      rw [List.mapM_nil] at h
      cases h
      exact .nil
    | cons x xs ih =>
      rw [List.mapM_cons] at h
      obtain ⟨y, hx, h⟩ := exists_of_bind_eq_ok h
      obtain ⟨rest, hxs, h⟩ := exists_of_bind_eq_ok h
      cases h
      exact .cons hx (ih hxs)
  · intro h
    induction h with
    | nil => rfl
    | cons hx _ ih =>
      rw [List.mapM_cons, hx, ih]
      rfl

/-! ## From the parts to the whole -/

/-- A sequence succeeds if all its steps do. -/
theorem isOk_bind {x : Except ε α} {f : α → Except ε β} (hx : x.isOk) (hf : ∀ a, (f a).isOk) :
    (x >>= f).isOk := by
  cases x with
  | error e => exact nomatch hx
  | ok a => exact hf a

/-- What succeeds still does after its result has been changed. -/
theorem isOk_map {x : Except ε α} {f : α → β} (hx : x.isOk) : (x.map f).isOk := by
  cases x with
  | error e => exact nomatch hx
  | ok a => rfl

/-- What succeeds still does after its complaint has been changed. -/
theorem isOk_mapError {f : ε → ε'} {x : Except ε α} (hx : x.isOk) : (x.mapError f).isOk := by
  cases x with
  | error e => exact nomatch hx
  | ok a => rfl

end VersionBump
