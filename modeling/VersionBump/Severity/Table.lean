import VersionBump.KeyMap.Basic
import VersionBump.Operation
import VersionBump.Severity.Rule

/-!
# Severity tables

The built-in rules with the levels of some codes replaced. A table is a value: whoever classifies a
change is handed the table to use.

* `Table.rule` applies the replacements, `Table.catalogue` does so for all rules.
* `Table.operation` and `Table.valueChange` build classified operations.
-/

namespace VersionBump.Severity

/-- The levels that replace the built-in ones, by code. -/
structure Table where
  overrides : KeyMap String Level := ∅
  deriving DecidableEq

instance : Inhabited Table := ⟨{}⟩

namespace Table

/-- The rule of a kind of change in a context, with the level of its code replaced. -/
def rule (t : Table) (context : Context) (kind : Change) : Rule :=
  let built := Severity.rule context kind
  match t.overrides.find? built.code with
  | some level => { built with level }
  | none => built

/-- All rules under the table. -/
def catalogue (t : Table) : List (Context × Change × Rule) :=
  kinds.map fun (context, kind) => (context, kind, t.rule context kind)

/-- The operation for one change. -/
def operation (t : Table) (context : Context) (kind : Change) (target : String) (location : Path) :
    Operation :=
  let rule := t.rule context kind
  { kind, code := rule.code, level := rule.level, context, target, location, reason := rule.reason }

/-- The reason with the values before and after. -/
def valueReason (reason before after : String) : String :=
  reason ++ ": `" ++ before ++ "` -> `" ++ after ++ "`"

/-- The operation for a change of a value. -/
def valueChange (t : Table) (context : Context) (kind : Change) (target : String) (location : Path)
    (before after : String) : Operation :=
  let op := t.operation context kind target location
  { op with reason := valueReason op.reason before after }

end Table

end VersionBump.Severity
