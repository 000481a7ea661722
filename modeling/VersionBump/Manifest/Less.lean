import VersionBump.Json.Value
import VersionBump.Less.Stylesheet
import VersionBump.Manifest.Record

/-!
# Manifests of stylesheets

* `Less.decodeFile` decodes a manifest.
* `Less.encodeFile` writes one with every field.
-/

namespace VersionBump.Manifest.Less

open Json VersionBump.Less

/-- The keywords of kinds of rules. -/
def ruleKinds : List (String × RuleKind) :=
  [("variable", .variableRule), ("mixin", .mixinRule), ("import", .importRule)]

/-- The fields of a rule. -/
def ruleFields : Record Rule :=
  Rule.mk <$> required "kind" (keyword ruleKinds) <*> required "name" text <*> maybe "value" text

/-- The fields of a stylesheet. -/
def sheetFields : Record Stylesheet :=
  Stylesheet.mk <$> defaulted "rules" (list (ruleFields.decode "struct LessRule")) []

/-- A stylesheet. -/
def decodeFile : Decoder Stylesheet := sheetFields.decode "struct LessFile"

/-- A rule as JSON. -/
def encodeRule (r : Rule) : Value :=
  .object [("kind", .string r.kind.name), ("name", .string r.name), ("value", .optional r.value)]

/-- A stylesheet as JSON. -/
def encodeFile (s : Stylesheet) : Value := .object [("rules", .array (s.rules.map encodeRule))]

end VersionBump.Manifest.Less
