import Mathlib.Data.List.TakeWhile
import VersionBump.Proofs.InheritanceSearch
import VersionBump.Proofs.LetterCase
import VersionBump.Proofs.MemberFamilies

/-!
# Inherited members

Members are inherited by name. What is inherited under the name of a member is declared by a
class-like of the same registry and has the key of the member.

* `exists_offer_of_inherited?` says where an inherited member comes from.
* `MemberFamily.InheritsByKey` is the statement for a family, and `inheritsByKey_methodFamily`,
  `inheritsByKey_propertyFamily` and `inheritsByKey_constantFamily` are the three.
-/

namespace VersionBump.Php

variable {α : Type} {r : Registry ClassLike} {c d : ClassLike} {name : String}

/-- A class-like that can be reached is declared. -/
theorem Reaches.mem_values {source : String} (h : Reaches r source d) : d ∈ r.values := by
  induction h with
  | found hfound =>
    obtain ⟨kind, e, he, rfl⟩ := exists_find?_of_findClass? hfound
    exact Registry.value_mem_of_find? he
  | source _ _ _ ih => exact ih

/-- What is inherited is offered by a class-like that is declared. -/
theorem exists_offer_of_inherited? {offer : ClassLike → Option α} {x : α}
    (h : inherited? r c offer = some x) : ∃ d ∈ r.values, offer d = some x := by
  obtain ⟨_, -, d, hd, hoffer⟩ := exists_reaches_of_searchPending h
  exact ⟨d, hd.mem_values, hoffer⟩

/-- The method of a name has its key. -/
theorem key_of_method? {m : Method} (h : c.method? name = some m) :
    m ∈ c.methods ∧ Text.equalsIgnoreAsciiCase m.name name = true ∧ m.key = Text.toLower name := by
  have hname : Text.equalsIgnoreAsciiCase m.name name = true :=
    List.find?_some (p := fun m : Method => Text.equalsIgnoreAsciiCase m.name name) h
  exact ⟨List.mem_of_find?_eq_some h, hname, Text.toLower_eq_of_equalsIgnoreAsciiCase hname⟩

/-- What is inherited for a member of the family is declared and has its key. -/
def MemberFamily.InheritsByKey (f : MemberFamily α) : Prop :=
  ∀ r c m n, f.inherited? r c m = some n → f.key n = f.key m ∧ ∃ d ∈ r.values, n ∈ f.members d

theorem inheritsByKey_methodFamily : methodFamily.InheritsByKey := by
  intro r c m n h
  obtain ⟨d, hd, hoffer⟩ := exists_offer_of_inherited? h
  obtain ⟨hin, -, hkey⟩ := key_of_method? (Option.filter_eq_some_iff.mp hoffer).1
  exact ⟨hkey, d, hd, hin⟩

/-- The key of a property is its own key. -/
private theorem dropLeading_key (x : Property) : Text.dropLeading '$' x.key = x.key := by
  rw [Property.key, Text.dropLeading, Text.dropLeading, String.toList_ofList,
    List.dropWhile_eq_self_iff.mpr (List.dropWhile_get_zero_not _ _)]

theorem inheritsByKey_propertyFamily : propertyFamily.InheritsByKey := by
  intro r c x n h
  obtain ⟨d, hd, hoffer⟩ := exists_offer_of_inherited? h
  have hfound := (Option.filter_eq_some_iff.mp hoffer).1
  have hkey : n.key = Text.dropLeading '$' x.key :=
    beq_iff_eq.mp (List.find?_some (p := fun n : Property => n.key == Text.dropLeading '$' x.key)
      hfound)
  exact ⟨hkey.trans (dropLeading_key x), d, hd, List.mem_of_find?_eq_some hfound⟩

theorem inheritsByKey_constantFamily : constantFamily.InheritsByKey := by
  intro r c k n h
  obtain ⟨d, hd, hoffer⟩ := exists_offer_of_inherited? h
  have hfound := (Option.filter_eq_some_iff.mp hoffer).1
  have hname : n.name = k.name :=
    beq_iff_eq.mp (List.find?_some (p := fun n : Constant => n.name == k.name) hfound)
  exact ⟨hname, d, hd, List.mem_of_find?_eq_some hfound⟩

end VersionBump.Php
