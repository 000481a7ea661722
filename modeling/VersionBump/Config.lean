import VersionBump.FileTree.Basic
import VersionBump.Php.Hierarchy
import VersionBump.Severity.Table
import VersionBump.Text.Case
import VersionBump.Text.Utf8
import VersionBump.Toml.Table

/-!
# Configuration

What a project says about its checks in the file `.semvercheck.toml`: the highest bump to accept,
what to do about inheritance cycles, levels for single codes, and the families to scan.

* `Config.parse` reads the text of a configuration, `Config.load` the file of a directory.
* `Config.template` is a configuration to start from.
-/

namespace VersionBump

/-- What a project says about its checks. No families mean all of them. -/
structure Config where
  allowed : Level := .major
  policy : Php.CyclePolicy := .ignore
  table : Severity.Table := {}
  families : List String := []
  deriving DecidableEq

/-- Why a configuration cannot be used. -/
inductive ConfigError where
  | unreadable (reason : String)
  | malformed
  | invalidLevel (key value : String)
  deriving DecidableEq, Repr

/-- The complaint about a configuration. -/
def ConfigError.message : ConfigError → String
  | unreadable reason => "Failed to read config file: " ++ reason
  | malformed => "Failed to parse config file:"
  | invalidLevel key value => "Invalid level for " ++ key ++ ": " ++ value

namespace Config

open Toml

instance : Inhabited Config := ⟨{}⟩

/-- The name of the configuration file. -/
def fileName : String := ".semvercheck.toml"

/-! ## Values -/

/-- A value that must be a text. -/
def textOf? : Node → Option String
  | .string s => some s
  | _ => none

/-- A value that must be a list of texts. -/
def textsOf? : Node → Option (List String)
  | .array items => items.mapM textOf?
  | _ => none

/-- The key under which a date or time stands where a table is expected. -/
def momentKey : String := "$__toml_private_datetime"

/-- A value that must be a table of texts. A date or time is a table of one entry. -/
def textTableOf? : Node → Option (List (String × String))
  | .table t => t.entries.mapM fun (key, value) => (textOf? value).map (key, ·)
  | .moment m => some [(momentKey, m.text)]
  | _ => none

/-- Whether a value is an empty list or an empty table. -/
def isVoid : Node → Bool
  | .array items => items.isEmpty
  | .table t => t.entries.isEmpty
  | _ => false

/-- The policy of a keyword. -/
def policyOfName? (name : String) : Option Php.CyclePolicy :=
  [Php.CyclePolicy.ignore, .error].find? fun p => p.name = name

/-- A value that must be a policy: its keyword, or a table with the keyword as its only key and
nothing under it. -/
def policyOf? : Node → Option Php.CyclePolicy
  | .string s => policyOfName? s
  | .table t =>
    match t.entries with
    | [(key, value)] => if isVoid value then policyOfName? key else none
    | _ => none
  | _ => none

/-- The setting under a key, if it is there. -/
def setting? {α : Type} (read : Node → Option α) (t : Table) (key : String) : Option (Option α) :=
  match t.find? key with
  | none => some none
  | some value => (read value).map some

/-- The only setting of a group: a group is a table, or the list of its settings in order. A date or
time is a group without known settings. What else a table holds must be sound, but what follows in a
list is not looked at. -/
def onlySetting? {α : Type} (read : Node → Option α) (key : String) : Node → Option (Option α)
  | .table t => if t.isSoundBeside [key] then setting? read t key else none
  | .array (value :: _) => (read value).map some
  | .elements [] last => (read (.table last)).map some
  | .elements (first :: _) _ => (read (.table first)).map some
  | .moment _ => some none
  | _ => none

/-! ## Reading -/

/-- A configuration whose levels are texts still. -/
structure Draft where
  allowed : Option String := none
  policy : Option Php.CyclePolicy := none
  levels : KeyMap String String := ∅
  families : Option (List String) := none

/-- Takes the settings out of a document. What other keys hold does not matter, but it must be
sound. -/
def draftOf? (t : Table) : Option Draft := do
  guard (t.isSoundBeside ["allowed_level", "graph", "levels", "scan"])
  let allowed ← setting? textOf? t "allowed_level"
  let policy ← setting? (onlySetting? policyOf? "cycle_policy") t "graph"
  let levels ← setting? textTableOf? t "levels"
  let families ← setting? (onlySetting? textsOf? "contexts") t "scan"
  return ⟨allowed, policy.getD none, KeyMap.ofList (levels.getD []), families.getD none⟩

/-- The level of a setting. -/
def levelOf (key value : String) : Except ConfigError Level :=
  match Level.parse? value with
  | some level => .ok level
  | none => .error (.invalidLevel key value)

/-- The configuration of a draft. Codes are written in upper case; of two spellings of a code the
one that comes last in the order of keys counts. -/
def ofDraft (d : Draft) : Except ConfigError Config := do
  let allowed ← (d.allowed.map (levelOf "allowed_level")).getD (.ok .major)
  -- The first bad level in the order of keys is complained about.
  let levels ← d.levels.toList.mapM fun (key, value) => do
    return (Text.toUpper key, ← levelOf key value)
  return ⟨allowed, d.policy.getD .ignore, ⟨KeyMap.ofList levels⟩, d.families.getD []⟩

/-- Reads the text of a configuration. -/
def parse (text : String) : Except ConfigError Config :=
  match (Table.read? text).bind draftOf? with
  | some draft => ofDraft draft
  | none => .error .malformed

/-- The text of a configuration file. -/
def textOf (content : Except String ByteArray) : Except ConfigError String :=
  match content with
  | .error reason => .error (.unreadable reason)
  | .ok bytes =>
    match Text.Utf8.decode? bytes with
    | some text => .ok text
    | none => .error (.unreadable "stream did not contain valid UTF-8")

/-- The configuration of a directory. Where there is no file, nothing is configured. -/
def load (t : FileTree) (cwd : Place) (dir : Path) : Except ConfigError Config := do
  let file := dir.join ⟨fileName⟩
  -- A configuration that is there must be usable.
  if t.leads cwd file then parse (← textOf (t.read cwd file)) else return {}

/-- A configuration to start from. -/
def template : String :=
  Text.lines
    ["# semvercheck configuration",
     "",
     "# Highest version bump `semvercheck compare` accepts (none, patch, minor, major).",
     "allowed_level = \"major\"",
     "",
     "[graph]",
     "# What ancestor/descendant queries do on an inheritance cycle: \"ignore\" or \"error\".",
     "cycle_policy = \"ignore\"",
     "",
     "[levels]",
     "# Per-code severity overrides, e.g.:",
     "# C006 = \"patch\"",
     "",
     "[scan]",
     "# Restrict scanned manifest families; all are enabled when omitted.",
     "# contexts = [\"php\", \"database\", \"di\", \"xsd\", \"system\", \"less\"]"]

end Config

end VersionBump
