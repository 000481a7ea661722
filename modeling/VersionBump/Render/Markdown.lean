import VersionBump.Assessment

/-!
# Markdown

An assessment and the catalogue of rules as markdown texts. Contexts are headings, and under each
the operations are listed from the highest level to the lowest.
-/

namespace VersionBump.Render.Markdown

/-- The line of an operation. -/
def operationLine (op : Operation) : String :=
  "- **" ++ op.level.name ++ "** `" ++ op.code ++ "` `" ++ op.target ++ "`: " ++ op.reason ++
    " (*" ++ op.location.text ++ "*)"

/-- The lines on the allowed level. -/
def verdictLines (level : Level) : Option Level → List String
  | none => []
  | some allowed =>
    if level.fits allowed then ["Within the allowed level (" ++ allowed.name ++ ").", ""]
    else ["**Exceeds the allowed level (" ++ allowed.name ++ ").**", ""]

/-- The lines of a context. -/
def contextLines (r : Report) (context : Context) : List String :=
  ["## " ++ context.name ++ " (" ++ (r.levelIn context).name ++ ")", ""] ++
    Level.all.reverse.flatMap (fun level => (r.operations context level).map operationLine) ++ [""]

/-- The lines of one class of changed files. -/
def fileLines (word : String) (paths : List String) : List String :=
  paths.map fun p => "- " ++ word ++ " `" ++ p ++ "`"

/-- The lines on changed files. -/
def changedLines (c : ChangedFiles) : List String :=
  if c.isEmpty then []
  else
    ["## Changed Files", "",
      Text.ofNat c.added.length ++ " added, " ++ Text.ofNat c.removed.length ++ " removed, " ++
        Text.ofNat c.modified.length ++ " modified", ""] ++
      fileLines "added" c.added ++ fileLines "removed" c.removed ++
      fileLines "modified" c.modified

/-- The lines for a report without operations. -/
def emptyLines (r : Report) : List String :=
  if r.isEmpty then ["## No Differences Found", "", "No structural differences detected."] else []

/-- An assessment, with the verdict on the allowed level if there is one. -/
def assessment (a : Assessment) (allowed : Option Level) : String :=
  Text.lines
    (["# Semantic Version Check", "", "**Suggested bump:** " ++ a.level.name, ""] ++
      verdictLines a.level allowed ++ emptyLines a.report ++
      a.report.contexts.flatMap (contextLines a.report) ++ changedLines a.changedFiles)

/-- The line of a rule. -/
def ruleLine (kind : Change) (rule : Severity.Rule) : String :=
  "- `" ++ rule.code ++ "` **" ++ rule.level.name ++ "** " ++ kind.name ++ ": " ++ rule.reason

/-- The lines of rules, with a heading wherever the context changes. -/
def ruleLines (current : Option Context) : List (Context × Change × Severity.Rule) → List String
  | [] => []
  | (context, kind, rule) :: rest =>
    (if current = some context then [] else ["", "## " ++ context.name, ""]) ++
      ruleLine kind rule :: ruleLines (some context) rest

/-- A list of rules. -/
def codes (rules : List (Context × Change × Severity.Rule)) : String :=
  Text.lines (["# Change Codes", ""] ++ ruleLines none rules)

end VersionBump.Render.Markdown
