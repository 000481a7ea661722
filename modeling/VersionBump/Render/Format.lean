import VersionBump.Render.Json
import VersionBump.Render.Markdown

/-!
# Output formats

The formats that assessments and the catalogue of rules can be written in.

* `Format.assessment` and `Format.codes` write in a format.
-/

namespace VersionBump.Render

/-- A format for output. -/
inductive Format where
  | markdown
  | json
  deriving DecidableEq, Repr, Inhabited

namespace Format

/-- The keyword of a format. -/
def name : Format → String
  | markdown => "markdown"
  | json => "json"

/-- A format is read from its exact keyword. -/
def ofName? (s : String) : Option Format := [markdown, json].find? fun f => f.name = s

/-- An assessment with the verdict on the allowed level, if there is one. -/
def assessment (f : Format) (a : Assessment) (allowed : Option Level) : String :=
  match f with
  | markdown => Markdown.assessment a allowed
  | json => Json.assessment a allowed

/-- A list of rules. -/
def codes (f : Format) (rules : List (Context × Change × Severity.Rule)) : String :=
  match f with
  | markdown => Markdown.codes rules
  | json => Json.codes rules

end Format

end VersionBump.Render
