import VersionBump.ChangedFiles
import VersionBump.Database.Differences
import VersionBump.Di.Differences
import VersionBump.Less.Differences
import VersionBump.Php.Differences
import VersionBump.Report
import VersionBump.Settings.Differences
import VersionBump.Snapshot
import VersionBump.Xsd.Differences

/-!
# Assessments

The comparison of two snapshots: all differences, sorted into a report, and the version bump they
call for. What is published is judged by the rules; what is not published is a patch at most.

* `suggestLevel` is the highest level of some reports. Changed files alone call for a patch.
* `assess` compares two snapshots.
-/

namespace VersionBump

/-- Why two snapshots cannot be compared. -/
inductive AnalysisError where
  | dualRegistryRequired
  | cycle (c : Php.Cycle)
  deriving DecidableEq, Repr

/-- The complaint about a comparison. -/
def AnalysisError.message : AnalysisError → String
  | dualRegistryRequired =>
    "Published API analysis needs API and full registries for both snapshots"
  | cycle c => c.message

/-- The result of a comparison. The report holds the changes and the changes of the published
surface together, each difference once. -/
structure Assessment where
  changes : Report := ∅
  membership : Report := ∅
  report : Report := ∅
  changedFiles : ChangedFiles := {}
  level : Level := .none
  deriving DecidableEq

/-- The bump that reports and changed files call for. -/
def suggestLevel (reports : List Report) (changed : ChangedFiles) : Level :=
  let level := Level.highest (reports.map (·.level))
  if level = .none && !changed.isEmpty then .patch else level

/-- The setting for the comparison of the PHP declarations of two snapshots. -/
def phpSetting (table : Severity.Table) (before after : Snapshot) : Php.Setting :=
  ⟨table, after.hierarchy, before.php, after.php⟩

/-- The findings on the published surfaces of two snapshots. -/
def publishedFindings (table : Severity.Table) (before after : Snapshot) :
    Except AnalysisError Findings :=
  (Php.publishedDifferences (phpSetting table before after) (Php.publishedSurface before.php)
    (Php.publishedSurface after.php)).mapError .cycle

/-- The report on all PHP declarations of two snapshots, published or not. -/
def fullReport (table : Severity.Table) (before after : Snapshot) : Except AnalysisError Report :=
  ((Php.allDifferences (phpSetting table before after)).map Report.ofList).mapError .cycle

/-- Comparing a single pair of registries as published surfaces is refused: it takes the surfaces
and the full registries of both sides. -/
def publishedReport (_before _after : Registry Php.ClassLike) : Except AnalysisError Report :=
  .error .dualRegistryRequired

/-- The reports on the configuration families of two snapshots. -/
def configurationReports (table : Severity.Table) (before after : Snapshot) : List Report :=
  [Report.ofList (Database.differences table before.database after.database),
   Report.ofList (Di.differences table before.di after.di),
   Report.ofList (Xsd.differences table before.xsd after.xsd),
   Report.ofList (Settings.differences table before.settings after.settings),
   Report.ofList (Less.differences table before.less after.less)]

/-- Compares two snapshots. -/
def assess (table : Severity.Table) (before after : Snapshot) :
    Except AnalysisError Assessment := do
  let published ← publishedFindings table before after
  let unpublished ← fullReport table before after
  let php := (Report.ofList published.changes).merge unpublished.dampen
  let changes := (configurationReports table before after).foldl Report.merge php
  let membership := Report.ofList published.membership
  let report := (changes.merge membership).deduplicate
  let changedFiles := ChangedFiles.between before.files after.files
  return { changes, membership, report, changedFiles, level := suggestLevel [report] changedFiles }

end VersionBump
