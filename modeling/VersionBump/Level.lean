import VersionBump.Text.Case

/-!
# Levels

The impact of a change on the version number, in the total order
`none < patch < minor < major`.

* `Level.parse?` reads a level from its name or its rank.
* `Level.max` is the higher of two levels; `Level.highest` that of a list.
* `Level.fits` decides whether a level stays within an allowed one.
-/

namespace VersionBump

/-- The smallest version bump a change calls for. -/
inductive Level where
  | none
  | patch
  | minor
  | major
  deriving DecidableEq, Repr, Inhabited

namespace Level

/-- The place of a level in the order. -/
def rank : Level → Nat
  | none => 0
  | patch => 1
  | minor => 2
  | major => 3

/-- The level of a rank. -/
def ofRank? : Nat → Option Level
  | 0 => some none
  | 1 => some patch
  | 2 => some minor
  | 3 => some major
  | _ => Option.none

/-- The levels from the lowest to the highest. -/
def all : List Level := [none, patch, minor, major]

instance : LE Level := ⟨fun a b => a.rank ≤ b.rank⟩
instance : LT Level := ⟨fun a b => a.rank < b.rank⟩
instance (a b : Level) : Decidable (a ≤ b) := inferInstanceAs (Decidable (a.rank ≤ b.rank))
instance (a b : Level) : Decidable (a < b) := inferInstanceAs (Decidable (a.rank < b.rank))

/-- The higher of two levels. -/
def max (a b : Level) : Level := if a ≤ b then b else a

instance : Max Level := ⟨max⟩

/-- The highest level of a list, and `none` if the list is empty. -/
def highest (levels : List Level) : Level := levels.foldr max none

/-- A level fits within an allowed one unless it is higher. -/
def fits (level allowed : Level) : Bool := level ≤ allowed

/-- The name of a level. -/
def name : Level → String
  | none => "NONE"
  | patch => "PATCH"
  | minor => "MINOR"
  | major => "MAJOR"

/-- A level is read from its name in any case, or from its rank, with blanks around it. -/
def parse? (s : String) : Option Level :=
  match Text.toLower (Text.trim s) with
  | "none" => some none
  | "0" => some none
  | "patch" => some patch
  | "1" => some patch
  | "minor" => some minor
  | "2" => some minor
  | "major" => some major
  | "3" => some major
  | _ => Option.none

/-- The complaint about a text that names no level. -/
def unknownMessage (s : String) : String := "Unknown level: " ++ s

theorem rank_injective {a b : Level} (h : a.rank = b.rank) : a = b := by
  cases a <;> cases b <;> simp_all [rank]

theorem ofRank?_rank (a : Level) : ofRank? a.rank = some a := by
  cases a <;> rfl

end Level

end VersionBump
