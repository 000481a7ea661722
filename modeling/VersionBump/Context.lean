import VersionBump.Text.Case

/-!
# Contexts

The category of declarations that a difference belongs to. Callers may bring contexts of their own;
these come after the known ones, in the order of their names.

* `Context.ofName` recognises the known names in any case.
* The instances make contexts usable as keys.
-/

namespace VersionBump

/-- A category of declarations. -/
inductive Context where
  | classes
  | interfaces
  | traits
  | database
  | di
  | xsd
  | settings
  | less
  | custom (name : String)
  deriving DecidableEq, Repr, Inhabited

namespace Context

/-- The name of a context. -/
def name : Context → String
  | classes => "class"
  | interfaces => "interface"
  | traits => "trait"
  | database => "database"
  | di => "di"
  | xsd => "xsd"
  | settings => "system"
  | less => "less"
  | custom name => name

/-- The place of a context in the order; all custom contexts share the last place. -/
def rank : Context → Nat
  | classes => 0
  | interfaces => 1
  | traits => 2
  | database => 3
  | di => 4
  | xsd => 5
  | settings => 6
  | less => 7
  | custom _ => 8

/-- The context of a name. A name that is not known is a custom context and keeps its spelling. -/
def ofName (s : String) : Context :=
  match Text.toLower s with
  | "class" => classes
  | "interface" => interfaces
  | "trait" => traits
  | "database" => database
  | "db_schema" => database
  | "di" => di
  | "xsd" => xsd
  | "system" => settings
  | "less" => less
  | _ => custom s

/-- Whether the context is none of the known ones. -/
def isCustom : Context → Bool
  | custom _ => true
  | _ => false

instance : Ord Context := ⟨compareLex (compareOn rank) (compareOn name)⟩

instance : Std.TransOrd Context :=
  inferInstanceAs (Std.TransCmp (compareLex (compareOn rank) (compareOn name)))

instance : Std.LawfulEqOrd Context where
  compare_self := compareLex_eq_eq.mpr ⟨Std.ReflOrd.compare_self, Std.ReflOrd.compare_self⟩
  eq_of_compare {a b} h := by
    have h' := compareLex_eq_eq.mp h
    have hr : a.rank = b.rank := Std.LawfulEqOrd.eq_of_compare h'.1
    have hn : a.name = b.name := Std.LawfulEqOrd.eq_of_compare h'.2
    cases a <;> cases b <;> simp_all [rank, name]

end Context

end VersionBump
