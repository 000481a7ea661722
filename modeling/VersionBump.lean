import VersionBump.Assessment
import VersionBump.Change
import VersionBump.ChangedFiles
import VersionBump.Check
import VersionBump.CommandLine
import VersionBump.Commands
import VersionBump.Config
import VersionBump.Context
import VersionBump.Database.Differences
import VersionBump.Database.Schema
import VersionBump.Decimal.Shortest
import VersionBump.Di.Differences
import VersionBump.Di.VirtualType
import VersionBump.Division
import VersionBump.Family
import VersionBump.FileTree.Basic
import VersionBump.FileTree.Walk
import VersionBump.Findings
import VersionBump.Ignore.Pattern
import VersionBump.Ignore.Rules
import VersionBump.Json.Document
import VersionBump.Json.Fault
import VersionBump.Json.Token
import VersionBump.Json.Value
import VersionBump.KeyDiff
import VersionBump.KeyMap.Basic
import VersionBump.KeyMap.Lookup
import VersionBump.Less.Differences
import VersionBump.Less.Stylesheet
import VersionBump.Level
import VersionBump.Main
import VersionBump.Manifest.Database
import VersionBump.Manifest.Decoder
import VersionBump.Manifest.Di
import VersionBump.Manifest.File
import VersionBump.Manifest.Less
import VersionBump.Manifest.Php
import VersionBump.Manifest.Record
import VersionBump.Manifest.Settings
import VersionBump.Manifest.Xsd
import VersionBump.Name
import VersionBump.Operation
import VersionBump.Path
import VersionBump.Php.Comparison
import VersionBump.Php.Declaration
import VersionBump.Php.Differences
import VersionBump.Php.Hierarchy
import VersionBump.Php.Inheritance
import VersionBump.Php.Surface
import VersionBump.Proofs.AlikeTables
import VersionBump.Proofs.AssessmentStages
import VersionBump.Proofs.CataloguedOperations
import VersionBump.Proofs.ContextLevels
import VersionBump.Proofs.CosmeticRewrites
import VersionBump.Proofs.CyclePolicies
import VersionBump.Proofs.DampenedReports
import VersionBump.Proofs.DeclaredHierarchies
import VersionBump.Proofs.DecodedValues
import VersionBump.Proofs.DepthFirstSearch
import VersionBump.Proofs.DetectedCycles
import VersionBump.Proofs.DistinctDifferences
import VersionBump.Proofs.DivisionCalls
import VersionBump.Proofs.DivisionContents
import VersionBump.Proofs.DivisionRuns
import VersionBump.Proofs.Enumerations
import VersionBump.Proofs.FileFamilies
import VersionBump.Proofs.FirstMentions
import VersionBump.Proofs.FlattenedTables
import VersionBump.Proofs.FoldedNames
import VersionBump.Proofs.GlobalTypes
import VersionBump.Proofs.HierarchyOrigins
import VersionBump.Proofs.HierarchySteps
import VersionBump.Proofs.IgnoredCycles
import VersionBump.Proofs.IndexedQueries
import VersionBump.Proofs.InheritanceSearch
import VersionBump.Proofs.InheritedMembers
import VersionBump.Proofs.InheritedMethods
import VersionBump.Proofs.IssuedOperations
import VersionBump.Proofs.KeptOperations
import VersionBump.Proofs.KeyMapEntries
import VersionBump.Proofs.LetterCase
import VersionBump.Proofs.LoadedDeclarations
import VersionBump.Proofs.LocatedOperations
import VersionBump.Proofs.LocatedPhpOperations
import VersionBump.Proofs.LostSettings
import VersionBump.Proofs.LowerForms
import VersionBump.Proofs.ManifestRoundTrips
import VersionBump.Proofs.MatchingRuns
import VersionBump.Proofs.MemberDetails
import VersionBump.Proofs.MemberFamilies
import VersionBump.Proofs.MemberLookups
import VersionBump.Proofs.MovedMembers
import VersionBump.Proofs.NestedReports
import VersionBump.Proofs.NodeIndices
import VersionBump.Proofs.NormalForms
import VersionBump.Proofs.Outcomes
import VersionBump.Proofs.PhpReports
import VersionBump.Proofs.PublicationFlips
import VersionBump.Proofs.PublishedChanges
import VersionBump.Proofs.PublishedPairs
import VersionBump.Proofs.PublishedRemovals
import VersionBump.Proofs.ReachableEntities
import VersionBump.Proofs.RecordedOperations
import VersionBump.Proofs.RelatedEntities
import VersionBump.Proofs.RelativePaths
import VersionBump.Proofs.RenderedStories
import VersionBump.Proofs.RepeatedReferences
import VersionBump.Proofs.ReportCells
import VersionBump.Proofs.ReportContents
import VersionBump.Proofs.ReportMonoid
import VersionBump.Proofs.ReportOrder
import VersionBump.Proofs.ReportRestriction
import VersionBump.Proofs.ReportSections
import VersionBump.Proofs.ReportedFiles
import VersionBump.Proofs.Reversals
import VersionBump.Proofs.ReversedConfiguration
import VersionBump.Proofs.ReversedDeclarations
import VersionBump.Proofs.ReversedMembers
import VersionBump.Proofs.RunContents
import VersionBump.Proofs.SelectedFamilies
import VersionBump.Proofs.SelectedReports
import VersionBump.Proofs.SelfComparison
import VersionBump.Proofs.SeparatedTexts
import VersionBump.Proofs.SeverityCodes
import VersionBump.Proofs.SeverityOverrides
import VersionBump.Proofs.SilentParameters
import VersionBump.Proofs.SurfaceRuns
import VersionBump.Proofs.TableDifferences
import VersionBump.Proofs.ThrownAccounts
import VersionBump.Proofs.ThrownTypes
import VersionBump.Proofs.Traversals
import VersionBump.Proofs.TwinOperations
import VersionBump.Proofs.TwinPhpOperations
import VersionBump.Proofs.TwoMapRegistries
import VersionBump.Proofs.UnchangedFiles
import VersionBump.Proofs.UnionNames
import VersionBump.Proofs.WrittenDocuments
import VersionBump.Proofs.WrittenManifests
import VersionBump.Proofs.WrittenRecords
import VersionBump.Proofs.WrittenTokens
import VersionBump.Registry
import VersionBump.Render.Format
import VersionBump.Render.Json
import VersionBump.Render.Markdown
import VersionBump.Report
import VersionBump.Settings.Config
import VersionBump.Settings.Differences
import VersionBump.Severity.Rule
import VersionBump.Severity.Table
import VersionBump.Snapshot
import VersionBump.Text.Basic
import VersionBump.Text.Case
import VersionBump.Text.CaseTable
import VersionBump.Text.HiddenTable
import VersionBump.Text.Quoted
import VersionBump.Text.Utf8
import VersionBump.Toml.Literal
import VersionBump.Toml.Moment
import VersionBump.Toml.Number
import VersionBump.Toml.Statement
import VersionBump.Toml.Table
import VersionBump.Xsd.Differences
import VersionBump.Xsd.Grammar
