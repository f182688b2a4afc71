import IdlLint.Command.Arguments
import IdlLint.Command.Run
import IdlLint.Config.Data
import IdlLint.Config.Library
import IdlLint.Config.Load
import IdlLint.Config.Moment
import IdlLint.Config.Settings
import IdlLint.Data.OrderedMap
import IdlLint.Disk.Basic
import IdlLint.Disk.Path
import IdlLint.Grammar.Derivation
import IdlLint.Grammar.Lexeme
import IdlLint.Grammar.Machine
import IdlLint.Grammar.Rule
import IdlLint.Grammar.Terminal
import IdlLint.Grammar.Tree
import IdlLint.Imports.Cycle
import IdlLint.Imports.Graph
import IdlLint.Lint.Check
import IdlLint.Lint.Collect
import IdlLint.Lint.Diagnostic
import IdlLint.Lint.Dispatch
import IdlLint.Lint.Probe
import IdlLint.Lint.Run
import IdlLint.Lint.Session
import IdlLint.Lint.Suppression
import IdlLint.Main
import IdlLint.Number.Arithmetic
import IdlLint.Number.Binary64
import IdlLint.Number.Decimal
import IdlLint.Number.Limit
import IdlLint.Number.Numeral
import IdlLint.Number.Written
import IdlLint.Pattern.Fault
import IdlLint.Pattern.Glob
import IdlLint.Pattern.Read
import IdlLint.Pattern.Regex
import IdlLint.Pattern.Width
import IdlLint.Proofs.Adjacency
import IdlLint.Proofs.AnnotationEdit
import IdlLint.Proofs.AnnotationScope
import IdlLint.Proofs.BareDocument
import IdlLint.Proofs.BlankInsertion
import IdlLint.Proofs.CanonicalName
import IdlLint.Proofs.CheckDispatch
import IdlLint.Proofs.CheckIndependence
import IdlLint.Proofs.ConfigLoading
import IdlLint.Proofs.ContainerTypes
import IdlLint.Proofs.CycleChain
import IdlLint.Proofs.CycleDetection
import IdlLint.Proofs.CycleReport
import IdlLint.Proofs.CycleRun
import IdlLint.Proofs.DepthFirstSearch
import IdlLint.Proofs.DetectorSafety
import IdlLint.Proofs.DiagnosticOrder
import IdlLint.Proofs.DocumentFault
import IdlLint.Proofs.DocumentOfTree
import IdlLint.Proofs.DocumentWalk
import IdlLint.Proofs.EnumerationItem
import IdlLint.Proofs.FileCollection
import IdlLint.Proofs.FileIndependence
import IdlLint.Proofs.FindingOrigin
import IdlLint.Proofs.FindingWords
import IdlLint.Proofs.GrammarDerivation
import IdlLint.Proofs.ImportGraphInvariant
import IdlLint.Proofs.IncludeCache
import IdlLint.Proofs.IncludeCycle
import IdlLint.Proofs.IncludeScope
import IdlLint.Proofs.JsonGrammar
import IdlLint.Proofs.JsonWriting
import IdlLint.Proofs.LexemeSpelling
import IdlLint.Proofs.LineFeeds
import IdlLint.Proofs.LongestLexeme
import IdlLint.Proofs.MachineCompletion
import IdlLint.Proofs.MachineOutline
import IdlLint.Proofs.NodeAddress
import IdlLint.Proofs.NodeTokens
import IdlLint.Proofs.NodeWords
import IdlLint.Proofs.NumeralText
import IdlLint.Proofs.OrderedMap
import IdlLint.Proofs.ParseDerivation
import IdlLint.Proofs.PathName
import IdlLint.Proofs.PorcelainLines
import IdlLint.Proofs.Preorder
import IdlLint.Proofs.QualifiedName
import IdlLint.Proofs.RecursiveSearch
import IdlLint.Proofs.Relocation
import IdlLint.Proofs.ReportReading
import IdlLint.Proofs.RuleSelection
import IdlLint.Proofs.RunCompletion
import IdlLint.Proofs.RunGathering
import IdlLint.Proofs.RunLifecycle
import IdlLint.Proofs.ScanFault
import IdlLint.Proofs.SettingsDemand
import IdlLint.Proofs.SourcePosition
import IdlLint.Proofs.StringLiteral
import IdlLint.Proofs.TextLayout
import IdlLint.Proofs.TextSplice
import IdlLint.Proofs.TokenOrder
import IdlLint.Proofs.TopologicalCount
import IdlLint.Proofs.TreePlacement
import IdlLint.Proofs.TypeChain
import IdlLint.Proofs.TypeTrail
import IdlLint.Proofs.Utf8Encoding
import IdlLint.Proofs.ViablePrefix
import IdlLint.Report.Basic
import IdlLint.Report.Json
import IdlLint.Report.Layout
import IdlLint.Rules.Catalog
import IdlLint.Rules.Naming
import IdlLint.Rules.Numbering
import IdlLint.Rules.Typing
import IdlLint.Schema.Basic
import IdlLint.Schema.File
import IdlLint.Schema.Literal
import IdlLint.Schema.Node
import IdlLint.Schema.OfTree
import IdlLint.Schema.Parse
import IdlLint.Schema.Resolve
import IdlLint.Schema.Walk
import IdlLint.Text.Base64
import IdlLint.Text.Blank
import IdlLint.Text.Case
import IdlLint.Text.Cell
import IdlLint.Text.CharacterName
import IdlLint.Text.CodePoint
import IdlLint.Text.Identifier
import IdlLint.Text.Letter
import IdlLint.Text.Lower
import IdlLint.Text.Mark
import IdlLint.Text.Name.Aliases
import IdlLint.Text.Name.Alphabets
import IdlLint.Text.Name.EastAsian
import IdlLint.Text.Name.Historic
import IdlLint.Text.Name.Mathematics
import IdlLint.Text.Name.Pictures
import IdlLint.Text.Name.Scripts
import IdlLint.Text.Name.Signs
import IdlLint.Text.Name.Symbols
import IdlLint.Text.Position
import IdlLint.Text.Printable
import IdlLint.Text.Quoted
import IdlLint.Text.Similarity
import IdlLint.Text.Small
import IdlLint.Text.Utf8
import IdlLint.Text.Word
import IdlLint.Yaml.Fault
import IdlLint.Yaml.Load
import IdlLint.Yaml.Node
import IdlLint.Yaml.Scalar
import IdlLint.Yaml.Tag
import IdlLint.Yaml.Timestamp
import IdlLint.Yaml.Token
