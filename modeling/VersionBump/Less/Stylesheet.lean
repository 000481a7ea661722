/-!
# Stylesheets

What a stylesheet offers to others: variables, mixins and imports. A variable and a mixin may share
a name, so the kind belongs to the identity of a rule.
-/

namespace VersionBump.Less

/-- The kind of a rule. -/
inductive RuleKind where
  | variableRule
  | mixinRule
  | importRule
  deriving DecidableEq, Repr, Inhabited

namespace RuleKind

/-- The keyword of a kind. -/
def name : RuleKind → String
  | variableRule => "variable"
  | mixinRule => "mixin"
  | importRule => "import"

/-- The word for a kind in the key of a rule. -/
def label : RuleKind → String
  | variableRule => "Variable"
  | mixinRule => "Mixin"
  | importRule => "Import"

end RuleKind

/-- A rule of a stylesheet. -/
structure Rule where
  kind : RuleKind
  name : String
  value : Option String := none
  deriving DecidableEq, Repr, Inhabited

/-- The identity of a rule within its file. -/
def Rule.key (r : Rule) : String := r.kind.label ++ ":" ++ r.name

/-- A stylesheet. -/
structure Stylesheet where
  rules : List Rule := []
  deriving DecidableEq, Repr, Inhabited

end VersionBump.Less
