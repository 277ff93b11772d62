import DocblockSync.Text.Basic
import DocblockSync.Text.Blank
import DocblockSync.Text.Bytes
import DocblockSync.Text.Letter
import DocblockSync.Text.Lowercase
import DocblockSync.Text.Lines
import DocblockSync.Document.LineIndex
import DocblockSync.Document.Edit
import DocblockSync.Declaration
import DocblockSync.ReturnType
import DocblockSync.Settings.Usage
import DocblockSync.Docblock.Model
import DocblockSync.Docblock.Content
import DocblockSync.Docblock.ParamTag
import DocblockSync.Docblock.ReturnTag
import DocblockSync.Docblock.Reader
import DocblockSync.Docblock.Merge
import DocblockSync.Docblock.Layout
import DocblockSync.Settings.Scanner
import DocblockSync.Plan
import DocblockSync.Options
import DocblockSync.Php.Token
import DocblockSync.Php.Tree
import DocblockSync.Php.Syntax
import DocblockSync.Php.Parser
import DocblockSync.Scope
import DocblockSync.Extraction
import DocblockSync.Generate
import DocblockSync.Processing
import DocblockSync.Path
import DocblockSync.Disk
import DocblockSync.Glob
import DocblockSync.Number.Power
import DocblockSync.Number.Binary
import DocblockSync.Number.Shortest
import DocblockSync.Json
import DocblockSync.Toml.Table
import DocblockSync.Toml.Scalar
import DocblockSync.Toml.Reader
import DocblockSync.Config
import DocblockSync.Settings.Cache
import DocblockSync.Diff.Change
import DocblockSync.Diff.Subsequence
import DocblockSync.Diff.Snake
import DocblockSync.Diff.Compaction
import DocblockSync.Diff.Unified
import DocblockSync.Command.Arguments
import DocblockSync.Command.Style
import DocblockSync.Command.Report
import DocblockSync.Command.Run
import DocblockSync.Command.Inputs
import DocblockSync.Main
import DocblockSync.Proofs.Affixes
import DocblockSync.Proofs.Boundary
import DocblockSync.Proofs.Octets
import DocblockSync.Proofs.PhysicalLines
import DocblockSync.Proofs.Splicing
import DocblockSync.Proofs.DocblockSearch
import DocblockSync.Proofs.Planning
import DocblockSync.Proofs.CommentExtent
import DocblockSync.Proofs.LineEdits
import DocblockSync.Proofs.AppliedEdits
import DocblockSync.Proofs.PlanApplies
import DocblockSync.Proofs.WrittenLines
import DocblockSync.Proofs.LineEndings
import DocblockSync.Proofs.LineNumbers
import DocblockSync.Proofs.Rerun
import DocblockSync.Proofs.ClosingDelimiter
import DocblockSync.Proofs.DocblockOwners
import DocblockSync.Proofs.Trimming
import DocblockSync.Proofs.ContentLines
import DocblockSync.Proofs.ParamTags
import DocblockSync.Proofs.ReturnTags
import DocblockSync.Proofs.SettingsEntries
import DocblockSync.Proofs.Legibility
import DocblockSync.Proofs.BodyGroups
import DocblockSync.Proofs.Rereading
import DocblockSync.Proofs.KeptText
import DocblockSync.Proofs.AuthoredText
import DocblockSync.Proofs.Recognition
import DocblockSync.Proofs.PlannedComments
import DocblockSync.Proofs.OrderlyReading
import DocblockSync.Proofs.Sections
import DocblockSync.Proofs.SectionReading
import DocblockSync.Proofs.RenewedSections
import DocblockSync.Proofs.Reformatting
import DocblockSync.Proofs.ThrownTypes
import DocblockSync.Proofs.MergedFields
import DocblockSync.Proofs.BodySpacing
import DocblockSync.Proofs.UpdatedLayout
import DocblockSync.Proofs.FreshDocblock
import DocblockSync.Proofs.FreshInsert
import DocblockSync.Proofs.OpeningTag
import DocblockSync.Proofs.Positions
import DocblockSync.Proofs.ScopePositions
import DocblockSync.Proofs.ReturnInference
import DocblockSync.Proofs.ScopeIsolation
import DocblockSync.Proofs.Constructs
import DocblockSync.Proofs.OutlineForest
import DocblockSync.Proofs.ScannerTurns
import DocblockSync.Proofs.PlainScan
import DocblockSync.Proofs.ByteScan
import DocblockSync.Proofs.ByteLiterals
import DocblockSync.Proofs.ScannerSafety
import DocblockSync.Proofs.SilentComments
import DocblockSync.Proofs.QuotedNames
import DocblockSync.Proofs.DiskWrites
import DocblockSync.Proofs.JsonText
import DocblockSync.Proofs.CacheFile
import DocblockSync.Proofs.ConfigLookup
import DocblockSync.Proofs.ExcludedDirectories
import DocblockSync.Proofs.ImportDescriptions
import DocblockSync.Proofs.SelectedFiles
import DocblockSync.Proofs.CheckAndFix
