import TerraLint.Analysis
import TerraLint.Body
import TerraLint.Builtin
import TerraLint.CommandLine
import TerraLint.CommandLine.Rendering
import TerraLint.CommandLine.Run
import TerraLint.Decimal.Binary64
import TerraLint.Discovery
import TerraLint.EntryName
import TerraLint.Document
import TerraLint.Document.Expr
import TerraLint.Document.Literal
import TerraLint.Document.Trivia
import TerraLint.FileTree
import TerraLint.Glob
import TerraLint.IgnoreFile
import TerraLint.Issue
import TerraLint.Json
import TerraLint.Json.Reader
import TerraLint.Main
import TerraLint.Module
import TerraLint.Parser
import TerraLint.Pattern
import TerraLint.Pattern.Class
import TerraLint.Pattern.Reader
import TerraLint.Project
import TerraLint.Proofs.Anchors
import TerraLint.Proofs.Arrangement
import TerraLint.Proofs.BlankLines
import TerraLint.Proofs.Blanks
import TerraLint.Proofs.Concatenation
import TerraLint.Proofs.Cut
import TerraLint.Proofs.Decoding.Agreement
import TerraLint.Proofs.Decoding.BodyText
import TerraLint.Proofs.Decoding.Expression
import TerraLint.Proofs.Decoding.Lockstep
import TerraLint.Proofs.Decoding.Marking
import TerraLint.Proofs.Decoding.Outline
import TerraLint.Proofs.Decoding.Snapping
import TerraLint.Proofs.Decoding.Trivia
import TerraLint.Proofs.Defaults
import TerraLint.Proofs.EmptyLine
import TerraLint.Proofs.Exchange
import TerraLint.Proofs.Exclusion
import TerraLint.Proofs.Exemption
import TerraLint.Proofs.ExtraFile
import TerraLint.Proofs.Failures
import TerraLint.Proofs.Findings
import TerraLint.Proofs.FinalLineFeed
import TerraLint.Proofs.FirstArguments
import TerraLint.Proofs.FirstBackend
import TerraLint.Proofs.Following
import TerraLint.Proofs.Gaps
import TerraLint.Proofs.HashComments
import TerraLint.Proofs.Heredocs
import TerraLint.Proofs.Independence
import TerraLint.Proofs.Initialization
import TerraLint.Proofs.Inventory
import TerraLint.Proofs.Json.Reading
import TerraLint.Proofs.Json.Writing
import TerraLint.Proofs.Layout
import TerraLint.Proofs.Locality
import TerraLint.Proofs.LowercaseNames
import TerraLint.Proofs.Matching
import TerraLint.Proofs.Modules
import TerraLint.Proofs.Numbers
import TerraLint.Proofs.Placement
import TerraLint.Proofs.Position
import TerraLint.Proofs.Selection
import TerraLint.Proofs.SelfContained
import TerraLint.Proofs.Templates
import TerraLint.Proofs.Tiling
import TerraLint.Proofs.Toml.Plain
import TerraLint.Proofs.Toml.Reading
import TerraLint.Proofs.TrailingComment
import TerraLint.Proofs.Unread
import TerraLint.Proofs.Walk
import TerraLint.Proofs.Yields
import TerraLint.Report
import TerraLint.Report.Exchange
import TerraLint.Rule
import TerraLint.Rule.BackendType
import TerraLint.Rule.Comments
import TerraLint.Rule.Configured
import TerraLint.Rule.FileContent
import TerraLint.Rule.LowercaseName
import TerraLint.Rule.MetaArguments
import TerraLint.Rule.ModuleStructure
import TerraLint.Rule.ResourceName
import TerraLint.Rule.Spacing
import TerraLint.RuleSet
import TerraLint.Settings
import TerraLint.Settings.Template
import TerraLint.Source.Position
import TerraLint.Source.Span
import TerraLint.Text.Alphabetic
import TerraLint.Text.Blank
import TerraLint.Text.Category
import TerraLint.Text.CharMap
import TerraLint.Text.CharSet
import TerraLint.Text.Folding
import TerraLint.Text.Hex
import TerraLint.Text.Lossy
import TerraLint.Text.Lowercase
import TerraLint.Text.Name
import TerraLint.Text.Property
import TerraLint.Text.Quoted
import TerraLint.Text.Script
import TerraLint.Token
import TerraLint.Token.Lexeme
import TerraLint.Token.Lexer
import TerraLint.Token.Template
import TerraLint.Toml
import TerraLint.Toml.Plain
import TerraLint.Toml.Reader
import TerraLint.Toml.Scalar
import TerraLint.Toml.Section
