import VersionBump.Assessment
import VersionBump.Config
import VersionBump.FileTree.Walk

/-!
# Checks

A check compares two directories of a file system under a configuration and decides whether the bump
that the differences call for is accepted.

* `CheckOptions.apply` puts options over a configuration.
* `check` runs a check. The configuration is the one of the later directory.
-/

namespace VersionBump

/-- Options of a check. What is not given is left to the configuration. -/
structure CheckOptions where
  allowed : Option Level := none
  families : List String := []
  policy : Option Php.CyclePolicy := none
  overrides : KeyMap String Level := ∅

/-- The configuration with options in place of its settings. Levels of single codes are added to the
configured ones. -/
def CheckOptions.apply (o : CheckOptions) (c : Config) : Config :=
  { allowed := o.allowed.getD c.allowed
    policy := o.policy.getD c.policy
    families := if o.families.isEmpty then c.families else o.families
    table := ⟨o.overrides.toList.foldl (fun m e => m.insert e.1 e.2) c.table.overrides⟩ }

/-- Why a check cannot be carried out. -/
inductive CheckError where
  | pathNotFound (path : Path)
  | config (cause : ConfigError)
  | scan (cause : ScanError)
  | analysis (cause : AnalysisError)

/-- The complaint about a check. -/
def CheckError.message : CheckError → String
  | pathNotFound path => "Path not found: " ++ path.text
  | config cause => "Configuration error: " ++ cause.message
  | scan cause => "Scan error: " ++ cause.message
  | analysis cause => "Analysis error: " ++ cause.message

/-- The result of a check. -/
structure Checked where
  assessment : Assessment
  allowed : Level

/-- Whether the bump is accepted. -/
def Checked.accepted (c : Checked) : Bool := c.assessment.level.fits c.allowed

/-- The snapshot of a directory of a file system. -/
def FileTree.snapshot (t : FileTree) (place : Place) (families : List Family)
    (policy : Php.CyclePolicy) : Except ScanError Snapshot :=
  if t.isDirectory place then Snapshot.load place.path (t.filesBelow place) families policy
  else .error (.missingRoot place.path)

/-- The place of a side of a check. -/
def FileTree.side (t : FileTree) (cwd : Place) (p : Path) : Except CheckError Place :=
  (t.resolve cwd p).mapError fun _ => .pathNotFound p

/-- Compares two directories. -/
def check (t : FileTree) (cwd : Place) (before after : Path) (options : CheckOptions) :
    Except CheckError Checked := do
  let earlier ← t.side cwd before
  let later ← t.side cwd after
  let config ← (Config.load t cwd later.path).mapError .config
  let config := options.apply config
  let families := Family.select config.families
  let old ← (t.snapshot earlier families config.policy).mapError .scan
  let new ← (t.snapshot later families config.policy).mapError .scan
  let assessment ← (assess config.table old new).mapError .analysis
  return ⟨assessment, config.allowed⟩

end VersionBump
