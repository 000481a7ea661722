import VersionBump.Assessment
import VersionBump.Json.Value

/-!
# JSON reports

An assessment and the catalogue of rules as JSON texts, ended by a line break.
-/

namespace VersionBump.Render.Json

open VersionBump.Json (Value)

/-- An operation filed in a cell. -/
def operation (cell : Report.Cell) (op : Operation) : Value :=
  .object [("code", .string op.code), ("level", .string cell.level.name),
    ("target", .string op.target), ("location", .string op.location.text),
    ("reason", .string op.reason)]

/-- A context with its operations. -/
def context (r : Report) (c : Context) : Value :=
  .object [("context", .string c.name), ("level", .string (r.levelIn c).name),
    ("operations", .array ((r.inContext c).map fun e => operation e.1 e.2))]

/-- The changed files. -/
def changedFiles (c : ChangedFiles) : Value :=
  .object [("added", .strings c.added), ("removed", .strings c.removed),
    ("modified", .strings c.modified)]

/-- The members on the allowed level. -/
def verdict (level : Level) : Option Level → List (String × Value)
  | none => []
  | some allowed =>
    [("allowed_level", .string allowed.name), ("within_allowed", .bool (level.fits allowed))]

/-- An assessment as a value. -/
def assessmentValue (a : Assessment) (allowed : Option Level) : Value :=
  .object ([("level", .string a.level.name)] ++ verdict a.level allowed ++
    [("contexts", .array (a.report.contexts.map (context a.report))),
     ("changed_files", changedFiles a.changedFiles)])

/-- An assessment, with the verdict on the allowed level if there is one. -/
def assessment (a : Assessment) (allowed : Option Level) : String :=
  (assessmentValue a allowed).pretty ++ "\n"

/-- A rule as a value. -/
def ruleValue : Context × Change × Severity.Rule → Value
  | (c, kind, rule) =>
    .object [("code", .string rule.code), ("context", .string c.name), ("kind", .string kind.name),
      ("level", .string rule.level.name), ("reason", .string rule.reason)]

/-- A list of rules. -/
def codes (rules : List (Context × Change × Severity.Rule)) : String :=
  (Value.array (rules.map ruleValue)).pretty ++ "\n"

end VersionBump.Render.Json
