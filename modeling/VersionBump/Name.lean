import VersionBump.KeyMap.Basic
import VersionBump.Text.Case

/-!
# Names of class-likes

Class names are written with or without a leading separator and in any case; names are therefore
compared by a key.

* `Name.normalize` drops blanks and leading separators.
* `Name.key` also folds the case.
* `Name.set` collects names by key and keeps the first spelling of each.
* `Name.typeKey` is the key of a union of types, in which the order does not count.
* `Name.pairwise_mergeSort_compare`: what is sorted by name is in the order of the names.
-/

namespace VersionBump.Name

/-- The name without blanks around it and without leading separators. -/
def normalize (s : String) : String := Text.dropLeading '\\' (Text.trim s)

/-- The form under which a name is looked up. -/
def key (s : String) : String := Text.toLower (normalize s)

/-- Names by key, each in its first spelling. -/
def set (names : List String) : KeyMap String String :=
  KeyMap.ofListFirst (names.map fun n => (key n, normalize n))

/-- Sorting by a text puts the texts in order. -/
theorem pairwise_mergeSort_compare {α : Type} (f : α → String) (l : List α) :
    (l.mergeSort fun a b => compare (f a) (f b) != .gt).Pairwise fun a b =>
      (compare (f a) (f b)).isLE = true := by
  have hle : ∀ a b : String, (compare a b != .gt) = (compare a b).isLE := fun a b => by
    cases compare a b <;> rfl
  simp only [hle]
  -- Two texts are in order one way or the other.
  have htotal : ∀ a b : α,
      ((compare (f a) (f b)).isLE || (compare (f b) (f a)).isLE) = true := fun a b => by
    rw [show compare (f b) (f a) = (compare (f a) (f b)).swap from Std.OrientedCmp.eq_swap]
    cases compare (f a) (f b) <;> rfl
  exact List.pairwise_mergeSort (fun _ _ _ => Std.TransCmp.isLE_trans) htotal l

/-- The keys of the parts of a union of types, sorted. -/
def typeParts (s : String) : List String :=
  ((Text.splitAt '|' s).map key).mergeSort fun a b => compare a b != .gt

/-- The form in which type names are compared. -/
def typeKey (s : String) : String := Text.joinWith "|" (typeParts s)

end VersionBump.Name
