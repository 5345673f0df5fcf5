import TerraLint.Data.Sorted
import TerraLint.Error
import TerraLint.Format
import TerraLint.Format.Assignment
import TerraLint.Format.Indent
import TerraLint.Format.Line
import TerraLint.Format.Scan
import TerraLint.Hcl.Cursor
import TerraLint.Hcl.Evaluation
import TerraLint.Hcl.Heredoc
import TerraLint.Hcl.Literal
import TerraLint.Hcl.Number
import TerraLint.Hcl.Parser
import TerraLint.Hcl.Precedence
import TerraLint.Hcl.Query
import TerraLint.Hcl.Quoting
import TerraLint.Hcl.Subterm
import TerraLint.Hcl.Template
import TerraLint.Hcl.Tree
import TerraLint.Hcl.Trivia
import TerraLint.Hcl.Value.Basic
import TerraLint.Hcl.Value.Printer
import TerraLint.Ignore
import TerraLint.Json.Basic
import TerraLint.Json.Decimal
import TerraLint.Json.Reader
import TerraLint.Layout.Class
import TerraLint.Layout.Order
import TerraLint.Layout.Render
import TerraLint.Layout.Tree
import TerraLint.Main
import TerraLint.Number.Double
import TerraLint.Number.Shortest
import TerraLint.Path
import TerraLint.Proofs.Data.Arrangement
import TerraLint.Proofs.Data.Forall
import TerraLint.Proofs.Data.Sorted
import TerraLint.Proofs.Error
import TerraLint.Proofs.Format.Assignment
import TerraLint.Proofs.Format.Brackets
import TerraLint.Proofs.Format.Conservation
import TerraLint.Proofs.Format.Filler
import TerraLint.Proofs.Format.Idempotence
import TerraLint.Proofs.Format.Lexer
import TerraLint.Proofs.Format.Nesting
import TerraLint.Proofs.Format.NormalForm
import TerraLint.Proofs.Format.Relayout
import TerraLint.Proofs.Format.Rows
import TerraLint.Proofs.Format.Token
import TerraLint.Proofs.Hcl.Advance
import TerraLint.Proofs.Hcl.Body
import TerraLint.Proofs.Hcl.Completeness
import TerraLint.Proofs.Hcl.Cursor
import TerraLint.Proofs.Hcl.Depth
import TerraLint.Proofs.Hcl.Ending
import TerraLint.Proofs.Hcl.Entries
import TerraLint.Proofs.Hcl.Grammar
import TerraLint.Proofs.Hcl.Header
import TerraLint.Proofs.Hcl.Locality
import TerraLint.Proofs.Hcl.Offset
import TerraLint.Proofs.Hcl.Placement
import TerraLint.Proofs.Hcl.Progress
import TerraLint.Proofs.Hcl.Respaced
import TerraLint.Proofs.Hcl.RespacedText
import TerraLint.Proofs.Hcl.RespacedTokens
import TerraLint.Proofs.Hcl.Respacing
import TerraLint.Proofs.Hcl.Spacing
import TerraLint.Proofs.Hcl.Steps
import TerraLint.Proofs.Hcl.TermStarts
import TerraLint.Proofs.Hcl.Trivia
import TerraLint.Proofs.Hcl.Window
import TerraLint.Proofs.Ignore.Block
import TerraLint.Proofs.Ignore.Faults
import TerraLint.Proofs.Ignore.Meaning
import TerraLint.Proofs.Layout.Agreement
import TerraLint.Proofs.Layout.Assembly
import TerraLint.Proofs.Layout.Canon
import TerraLint.Proofs.Layout.CanonLines
import TerraLint.Proofs.Layout.CanonOrder
import TerraLint.Proofs.Layout.Canonical
import TerraLint.Proofs.Layout.Eased
import TerraLint.Proofs.Layout.Fixpoint
import TerraLint.Proofs.Layout.Header
import TerraLint.Proofs.Layout.Hull
import TerraLint.Proofs.Layout.Objects
import TerraLint.Proofs.Layout.Outermost
import TerraLint.Proofs.Layout.Reading
import TerraLint.Proofs.Layout.Rearrangement
import TerraLint.Proofs.Layout.Reprint
import TerraLint.Proofs.Layout.Retention
import TerraLint.Proofs.Layout.Sections
import TerraLint.Proofs.Layout.Separation
import TerraLint.Proofs.Layout.SourceOrder
import TerraLint.Proofs.Layout.Steadiness
import TerraLint.Proofs.Layout.Written
import TerraLint.Proofs.Path.Components
import TerraLint.Proofs.Protocol.DocumentName
import TerraLint.Proofs.Protocol.Independence
import TerraLint.Proofs.Rule.Branches
import TerraLint.Proofs.Rule.CountIndex
import TerraLint.Proofs.Rule.Declarations
import TerraLint.Proofs.Rule.Distinct
import TerraLint.Proofs.Rule.Ordering
import TerraLint.Proofs.Rule.Places
import TerraLint.Proofs.Rule.Providers
import TerraLint.Proofs.Rule.RequiredVersion
import TerraLint.Proofs.Rule.SensitiveDefault
import TerraLint.Proofs.Rule.Terms
import TerraLint.Proofs.Session.Concatenation
import TerraLint.Proofs.Session.History
import TerraLint.Proofs.Session.Omission
import TerraLint.Proofs.Session.Outcome
import TerraLint.Proofs.Session.Ranges
import TerraLint.Proofs.Session.Record
import TerraLint.Proofs.Session.Rejection
import TerraLint.Proofs.Source.Header
import TerraLint.Proofs.Source.Lookup
import TerraLint.Proofs.Source.MapText
import TerraLint.Proofs.Source.Placed
import TerraLint.Proofs.Source.Position
import TerraLint.Proofs.Source.Reread
import TerraLint.Proofs.Source.Trimming
import TerraLint.Proofs.Text.Boundary
import TerraLint.Proofs.Text.Lines
import TerraLint.Proofs.Text.Trim
import TerraLint.Protocol.Capabilities
import TerraLint.Protocol.Diagnostic
import TerraLint.Protocol.Message
import TerraLint.Protocol.Preprocess
import TerraLint.Protocol.Server
import TerraLint.Protocol.Uri
import TerraLint.Regex.Basic
import TerraLint.Regex.CharSet
import TerraLint.Regex.Meaning
import TerraLint.Regex.Parser
import TerraLint.Regex.Pattern
import TerraLint.Regex.Property
import TerraLint.Regex.Reader
import TerraLint.Regex.Simplify
import TerraLint.Regex.Size
import TerraLint.Rule.ArgumentLayout
import TerraLint.Rule.Basic
import TerraLint.Rule.CountIndex
import TerraLint.Rule.DeclarationOrder
import TerraLint.Rule.Heredoc
import TerraLint.Rule.Registry
import TerraLint.Rule.SeparateFile
import TerraLint.Rule.TerraformBlock
import TerraLint.Rule.VariableDeclaration
import TerraLint.Rule.VariableName
import TerraLint.Session
import TerraLint.Source.Evaluation
import TerraLint.Source.File
import TerraLint.Source.LineIndex
import TerraLint.Source.MapText
import TerraLint.Source.Range
import TerraLint.Text.Blank
import TerraLint.Text.Digits
import TerraLint.Text.Line
import TerraLint.Text.Offset
import TerraLint.Text.Quoted
import TerraLint.Unicode.Addition
import TerraLint.Unicode.Age
import TerraLint.Unicode.Alphabetic
import TerraLint.Unicode.Break
import TerraLint.Unicode.Case
import TerraLint.Unicode.CaseChange
import TerraLint.Unicode.Category
import TerraLint.Unicode.Control
import TerraLint.Unicode.Emoji
import TerraLint.Unicode.Grapheme
import TerraLint.Unicode.Identifier
import TerraLint.Unicode.Ideograph
import TerraLint.Unicode.Intervals
import TerraLint.Unicode.Letter
import TerraLint.Unicode.Mark
import TerraLint.Unicode.Numeric
import TerraLint.Unicode.Property
import TerraLint.Unicode.Punctuation
import TerraLint.Unicode.Script
import TerraLint.Unicode.ScriptExtension
import TerraLint.Unicode.Symbol
import TerraLint.Unicode.Typography
import TerraLint.Unicode.Unassigned
import TerraLint.Unicode.Utf8
import TerraLint.Yaml.Document
import TerraLint.Yaml.Glyph
import TerraLint.Yaml.Node
import TerraLint.Yaml.Scalar
import TerraLint.Yaml.Tag
import TerraLint.Yaml.Token
import TerraLint.Yaml.Tokens
import TerraLint.Yaml.Value
