import ProviderCoverage.Unicode.Run
import ProviderCoverage.Unicode.Case
import ProviderCoverage.Unicode.Word
import ProviderCoverage.Unicode.Visible
import ProviderCoverage.Unicode.Blank
import ProviderCoverage.Unicode.CodeSet
import ProviderCoverage.Unicode.Property
import ProviderCoverage.Unicode.Category
import ProviderCoverage.Unicode.Script
import ProviderCoverage.Unicode.ScriptExtension
import ProviderCoverage.Unicode.Age
import ProviderCoverage.Unicode.GraphemeBreak
import ProviderCoverage.Unicode.WordBreak
import ProviderCoverage.Unicode.SentenceBreak
import ProviderCoverage.Unicode.Binary.Casing
import ProviderCoverage.Unicode.Binary.Identifier
import ProviderCoverage.Unicode.Binary.Emoji
import ProviderCoverage.Unicode.Binary.Text
import ProviderCoverage.Unicode.Binary
import ProviderCoverage.Unicode.Alphabetic
import ProviderCoverage.Decimal.Shortest
import ProviderCoverage.Decimal.Layout
import ProviderCoverage.Naming
import ProviderCoverage.Similarity
import ProviderCoverage.Text.Quoted
import ProviderCoverage.Duration
import ProviderCoverage.Json.Value
import ProviderCoverage.Json.Read
import ProviderCoverage.Text.Basic
import ProviderCoverage.Entity
import ProviderCoverage.TestFunction
import ProviderCoverage.ConfigText
import ProviderCoverage.Regex.Basic
import ProviderCoverage.Regex.Property
import ProviderCoverage.Regex.Match
import ProviderCoverage.Regex.Error
import ProviderCoverage.Regex.Nesting
import ProviderCoverage.Regex.Parse
import ProviderCoverage.Regex.CharSet
import ProviderCoverage.Regex.Utf8Sequence
import ProviderCoverage.Regex.Term
import ProviderCoverage.Regex.Footprint
import ProviderCoverage.Glob
import ProviderCoverage.Settings.Basic
import ProviderCoverage.Settings.Error
import ProviderCoverage.Settings.FileFilter
import ProviderCoverage.Settings.Check
import ProviderCoverage.Yaml.Token
import ProviderCoverage.Yaml.Token.Scan
import ProviderCoverage.Yaml.Event
import ProviderCoverage.Yaml.Node
import ProviderCoverage.Decimal.Read
import ProviderCoverage.Settings.Yaml
import ProviderCoverage.Go.Token
import ProviderCoverage.Go.Lexer
import ProviderCoverage.Go.Syntax
import ProviderCoverage.Go.Parser
import ProviderCoverage.Go.File
import ProviderCoverage.Digest.Blake3
import ProviderCoverage.Log
import ProviderCoverage.TestDiscovery
import ProviderCoverage.Extraction.Attributes
import ProviderCoverage.Extraction.Discovery
import ProviderCoverage.Extraction.Strategies
import ProviderCoverage.Extraction.Extractor
import ProviderCoverage.Registry
import ProviderCoverage.Coverage
import ProviderCoverage.Linker
import ProviderCoverage.Findings
import ProviderCoverage.Cache
import ProviderCoverage.Sources
import ProviderCoverage.Analysis
import ProviderCoverage.Report.Style
import ProviderCoverage.Report.Text
import ProviderCoverage.Report.Json
import ProviderCoverage.Report.Format
import ProviderCoverage.Disk.Basic
import ProviderCoverage.Disk.Ignore
import ProviderCoverage.Disk.Walk
import ProviderCoverage.Disk.Load
import ProviderCoverage.Failure
import ProviderCoverage.Analysis.Run
import ProviderCoverage.LogFilter
import ProviderCoverage.Command
import ProviderCoverage.Main
import ProviderCoverage.Proofs.Binary64
import ProviderCoverage.Proofs.Confidence
import ProviderCoverage.Proofs.Similarity
import ProviderCoverage.Proofs.Coverage
import ProviderCoverage.Proofs.RegistryInvariant
import ProviderCoverage.Proofs.Linking
import ProviderCoverage.Proofs.Build
import ProviderCoverage.Proofs.Naming
import ProviderCoverage.Proofs.NamePortion
import ProviderCoverage.Proofs.LinkOutcome
import ProviderCoverage.Proofs.Suggestion
import ProviderCoverage.Proofs.TitleCase
import ProviderCoverage.Proofs.DiscoveryInvariant
import ProviderCoverage.Proofs.MetadataNaming
import ProviderCoverage.Proofs.FileOrder
import ProviderCoverage.Proofs.CacheRefinement
import ProviderCoverage.Proofs.FloatOrder
import ProviderCoverage.Proofs.ProviderPrefix
import ProviderCoverage.Proofs.TestSteps
import ProviderCoverage.Proofs.Severity
import ProviderCoverage.Proofs.FuzzyMatch
import ProviderCoverage.Proofs.LinkChecks
import ProviderCoverage.Proofs.FindingsReport
import ProviderCoverage.Proofs.DurationGrammar
import ProviderCoverage.Proofs.TestFileGlob
import ProviderCoverage.Proofs.FileConvention
import ProviderCoverage.Proofs.HarnessHelpers
import ProviderCoverage.Proofs.Rounding
import ProviderCoverage.Proofs.EditDistance
import ProviderCoverage.Proofs.CodeRuns
import ProviderCoverage.Proofs.SnakeCaseStable
import ProviderCoverage.Proofs.StringLiteral
