import SourceGrade.Analysis.Basic
import SourceGrade.Analysis.Pool
import SourceGrade.Analysis.Session
import SourceGrade.Blocks.Basic
import SourceGrade.Blocks.Braces
import SourceGrade.Blocks.Indentation
import SourceGrade.Blocks.Keywords
import SourceGrade.Blocks.OfSource
import SourceGrade.Cache.Normalization
import SourceGrade.Cache.Report
import SourceGrade.Cache.Sharing
import SourceGrade.CommandLine.Command
import SourceGrade.CommandLine.Files
import SourceGrade.CommandLine.Logging
import SourceGrade.CommandLine.Options
import SourceGrade.CommandLine.Run
import SourceGrade.Configuration.Active
import SourceGrade.Configuration.Basic
import SourceGrade.Configuration.Environment
import SourceGrade.Configuration.Error
import SourceGrade.Configuration.Load
import SourceGrade.Declaration.Basic
import SourceGrade.Declaration.Extent
import SourceGrade.Declaration.Find
import SourceGrade.Declaration.Parameters
import SourceGrade.Digest.Sha256
import SourceGrade.Display.Cell
import SourceGrade.Display.ColourNames
import SourceGrade.Display.Emoji
import SourceGrade.Display.EmojiNames
import SourceGrade.Display.Format
import SourceGrade.Display.Handler
import SourceGrade.Display.Markup
import SourceGrade.Display.Piece
import SourceGrade.Display.Style
import SourceGrade.Feedback.Answer
import SourceGrade.Feedback.Client
import SourceGrade.Feedback.Narrative
import SourceGrade.Feedback.TestCase
import SourceGrade.Hazard.Call
import SourceGrade.Hazard.DeadCode
import SourceGrade.Hazard.Dereference
import SourceGrade.Hazard.Division
import SourceGrade.Hazard.Evidence
import SourceGrade.Hazard.Indexing
import SourceGrade.Hazard.Literal
import SourceGrade.Hazard.Nesting
import SourceGrade.Hazard.Resource
import SourceGrade.Hazard.Scan
import SourceGrade.Issue.Basic
import SourceGrade.Issue.Confirmation
import SourceGrade.Issue.Inspection
import SourceGrade.Issue.Normalize
import SourceGrade.Issue.Rule
import SourceGrade.Json.Basic
import SourceGrade.Json.Reader
import SourceGrade.Json.Shown
import SourceGrade.Json.Writer
import SourceGrade.Language.Basic
import SourceGrade.Language.Lookup
import SourceGrade.Language.Table
import SourceGrade.Listing
import SourceGrade.Listing.Sorting
import SourceGrade.Main
import SourceGrade.Measure.Complexity
import SourceGrade.Measure.Documentation
import SourceGrade.Measure.Duplication
import SourceGrade.Measure.Nesting
import SourceGrade.Measure.Size
import SourceGrade.Number.Amount
import SourceGrade.Number.Binary
import SourceGrade.Number.Comparable
import SourceGrade.Number.Decimal
import SourceGrade.Number.Power
import SourceGrade.Number.Reading
import SourceGrade.Number.Scalar
import SourceGrade.Pattern.Basic
import SourceGrade.Pattern.Build
import SourceGrade.Proofs.AcceptedThresholds
import SourceGrade.Proofs.AddedIssues
import SourceGrade.Proofs.AnalysisOutcome
import SourceGrade.Proofs.AnsweredObjects
import SourceGrade.Proofs.BalancedTexts
import SourceGrade.Proofs.BraceTokens
import SourceGrade.Proofs.ComparedOutputs
import SourceGrade.Proofs.ComplexityRatings
import SourceGrade.Proofs.CompressedDeductions
import SourceGrade.Proofs.CriticalOverride
import SourceGrade.Proofs.DescriptionPatterns
import SourceGrade.Proofs.Discounts
import SourceGrade.Proofs.Docstrings
import SourceGrade.Proofs.DoubleParts
import SourceGrade.Proofs.DoubleRange
import SourceGrade.Proofs.DuplicateBlocks
import SourceGrade.Proofs.EvaluatedCases
import SourceGrade.Proofs.ExactArithmetic
import SourceGrade.Proofs.ExactThresholds
import SourceGrade.Proofs.FirstOccurrences
import SourceGrade.Proofs.FirstWords
import SourceGrade.Proofs.ForeignWords
import SourceGrade.Proofs.FoundIssues
import SourceGrade.Proofs.FunctionBodies
import SourceGrade.Proofs.FunctionLines
import SourceGrade.Proofs.GroupCosts
import SourceGrade.Proofs.GuardedScopes
import SourceGrade.Proofs.HazardErrors
import SourceGrade.Proofs.HazardLines
import SourceGrade.Proofs.HeaderBreaks
import SourceGrade.Proofs.HiddenText
import SourceGrade.Proofs.IndentedBlocks
import SourceGrade.Proofs.IssueGroups
import SourceGrade.Proofs.IssueLines
import SourceGrade.Proofs.JsonLine
import SourceGrade.Proofs.LeadingComments
import SourceGrade.Proofs.LineComposition
import SourceGrade.Proofs.LineCounts
import SourceGrade.Proofs.LoweredTexts
import SourceGrade.Proofs.MaintainabilityScores
import SourceGrade.Proofs.MatchExtent
import SourceGrade.Proofs.MatchingEnds
import SourceGrade.Proofs.NearestDoubles
import SourceGrade.Proofs.NestingReports
import SourceGrade.Proofs.NormalDescriptions
import SourceGrade.Proofs.NormalizationMemory
import SourceGrade.Proofs.NumberOrder
import SourceGrade.Proofs.NumericLiterals
import SourceGrade.Proofs.OpenBraces
import SourceGrade.Proofs.OrderedThresholds
import SourceGrade.Proofs.OutsideDivisions
import SourceGrade.Proofs.ParameterLists
import SourceGrade.Proofs.ParameterPieces
import SourceGrade.Proofs.PatternPasses
import SourceGrade.Proofs.RatedFindings
import SourceGrade.Proofs.RatedReport
import SourceGrade.Proofs.RealAmounts
import SourceGrade.Proofs.RepeatedDereferences
import SourceGrade.Proofs.ReportConsistency
import SourceGrade.Proofs.ReportKeys
import SourceGrade.Proofs.ScanLines
import SourceGrade.Proofs.ScanMarks
import SourceGrade.Proofs.SessionHistory
import SourceGrade.Proofs.SessionTransparency
import SourceGrade.Proofs.SettingPrecedence
import SourceGrade.Proofs.SharedCalls
import SourceGrade.Proofs.SharedMemory
import SourceGrade.Proofs.ShortestDecimal
import SourceGrade.Proofs.SlotTexts
import SourceGrade.Proofs.SmellLines
import SourceGrade.Proofs.SourceExtent
import SourceGrade.Proofs.SourceLines
import SourceGrade.Proofs.StrippedTexts
import SourceGrade.Proofs.TextOrder
import SourceGrade.Proofs.ThresholdText
import SourceGrade.Proofs.WrittenNumbers
import SourceGrade.Report.Basic
import SourceGrade.Report.Json
import SourceGrade.Scoring.Aggregation
import SourceGrade.Scoring.Bounds
import SourceGrade.Scoring.Complexity
import SourceGrade.Scoring.Debt
import SourceGrade.Scoring.Maintainability
import SourceGrade.Scoring.Rating
import SourceGrade.Scoring.Reliability
import SourceGrade.Setting.Basic
import SourceGrade.Setting.Json
import SourceGrade.Setting.Moment
import SourceGrade.Setting.Number
import SourceGrade.Smell.Basic
import SourceGrade.Smell.Detect
import SourceGrade.Smell.EmptyCatch
import SourceGrade.Smell.Measured
import SourceGrade.Source.Basic
import SourceGrade.Source.Scan
import SourceGrade.Text.Basic
import SourceGrade.Text.Case
import SourceGrade.Text.CodePoint
import SourceGrade.Text.FlipTable
import SourceGrade.Text.Letter
import SourceGrade.Text.Printable
import SourceGrade.Text.Quoted
import SourceGrade.Text.Refusal
import SourceGrade.Text.Utf8
import SourceGrade.Thresholds.Basic
import SourceGrade.Thresholds.Fields
import SourceGrade.Thresholds.Validation
import SourceGrade.Toml.Document
import SourceGrade.Toml.Lexis
import SourceGrade.Toml.Number
import SourceGrade.Toml.Reader
