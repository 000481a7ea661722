import VersionBump.Text.Case

/-!
# Database schemas

The tables that a module declares or extends, with their columns, indexes and keys.

* `Column.sameDefinition` compares what is left of a column besides its type, nullability and
  default.
* `Constraint.referenceId` is the identity of a key.
-/

namespace VersionBump.Database

/-- A column of a table. -/
structure Column where
  name : String
  type : String
  nullable : Bool := true
  default : Option String := none
  length : Option Nat := none
  precision : Option Nat := none
  scale : Option Nat := none
  unsigned : Bool := false
  identity : Bool := false
  comment : Option String := none
  deriving DecidableEq, Repr, Inhabited

/-- Whether two columns are stored alike, apart from type, nullability and default. -/
def Column.sameDefinition (a b : Column) : Bool :=
  a.length == b.length && a.precision == b.precision && a.scale == b.scale &&
    a.unsigned == b.unsigned && a.identity == b.identity

/-- An index of a table. -/
structure Index where
  referenceId : String
  type : String := "btree"
  columns : List String := []
  deriving DecidableEq, Repr, Inhabited

/-- The type and the columns of an index, as reported. -/
def Index.summary (i : Index) : String := i.type ++ " (" ++ Text.joinWith ", " i.columns ++ ")"

/-- A key of a table. -/
inductive Constraint where
  | primary (referenceId : String) (columns : List String)
  | unique (referenceId : String) (columns : List String)
  | foreign (referenceId column referenceTable referenceColumn : String)
      (onDelete : Option String)
  deriving DecidableEq, Repr, Inhabited

/-- The identity of a key. -/
def Constraint.referenceId : Constraint → String
  | primary r _ => r
  | unique r _ => r
  | foreign r _ _ _ _ => r

/-- A table as one module declares it. -/
structure Table where
  name : String
  resource : Option String := none
  engine : Option String := none
  comment : Option String := none
  columns : List Column := []
  indexes : List Index := []
  constraints : List Constraint := []
  deriving DecidableEq, Repr, Inhabited

/-- The tables of one module. -/
structure ModuleSchema where
  module : String
  tables : List Table := []
  deriving DecidableEq, Repr, Inhabited

end VersionBump.Database
