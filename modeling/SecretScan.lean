import SecretScan.Catalog
import SecretScan.Command.Arguments
import SecretScan.Command.Basic
import SecretScan.Command.Outcome
import SecretScan.Command.Rules
import SecretScan.Command.Run
import SecretScan.Command.Scan
import SecretScan.Command.Setup
import SecretScan.Console.Line
import SecretScan.Console.Markup
import SecretScan.Console.Table
import SecretScan.Datum.Basic
import SecretScan.Datum.Json
import SecretScan.Datum.Key
import SecretScan.Datum.Number
import SecretScan.Datum.Slot
import SecretScan.Datum.Spelling
import SecretScan.Datum.Time
import SecretScan.Decimal.Binary
import SecretScan.Decimal.Fixed
import SecretScan.Decimal.Numeral
import SecretScan.Decimal.Shortest
import SecretScan.Event
import SecretScan.File.Path
import SecretScan.File.Tree
import SecretScan.File.Write
import SecretScan.Finding.Basic
import SecretScan.Finding.Benign
import SecretScan.Finding.Dedup
import SecretScan.Finding.Location
import SecretScan.Finding.Redact
import SecretScan.Finding.Score
import SecretScan.Json.Basic
import SecretScan.Json.Print
import SecretScan.Log.Level
import SecretScan.Log.Line
import SecretScan.Main
import SecretScan.Pattern.Comment
import SecretScan.Pattern.Edit
import SecretScan.Pattern.Flag
import SecretScan.Pattern.Group
import SecretScan.Pattern.Native
import SecretScan.Pattern.Token
import SecretScan.Pattern.Walk
import SecretScan.Proofs.Decimal.Order
import SecretScan.Proofs.Finding.Dedup
import SecretScan.Proofs.Finding.Score
import SecretScan.Proofs.Pattern.Conversion
import SecretScan.Proofs.Pattern.Mode
import SecretScan.Proofs.Pattern.NamedItem
import SecretScan.Proofs.Pattern.Nesting
import SecretScan.Proofs.Pattern.Opener
import SecretScan.Proofs.Pattern.Passes
import SecretScan.Proofs.Pattern.Piece
import SecretScan.Proofs.Pattern.Rewriting
import SecretScan.Proofs.Pattern.Shape
import SecretScan.Proofs.Scan.Account
import SecretScan.Proofs.Scan.Genuine
import SecretScan.Proofs.Scan.Independence
import SecretScan.Proofs.Scan.Merge
import SecretScan.Proofs.Scan.Partial
import SecretScan.Proofs.Scan.Pass
import SecretScan.Proofs.Scan.Run
import SecretScan.Proofs.Scan.Sequential
import SecretScan.Proofs.Scan.Stop
import SecretScan.Proofs.Scan.Tightening
import SecretScan.Proofs.Scan.Unit
import SecretScan.Regex.Identifier
import SecretScan.Regex.Matching
import SecretScan.Regex.Parser
import SecretScan.Regex.Progress
import SecretScan.Regex.Property
import SecretScan.Regex.Reader
import SecretScan.Regex.Spot
import SecretScan.Regex.Syntax
import SecretScan.Report.Json
import SecretScan.Report.Sarif
import SecretScan.Report.Terminal
import SecretScan.Rule.Basic
import SecretScan.Rule.Builtin
import SecretScan.Rule.Compile
import SecretScan.Rule.Decode
import SecretScan.Rule.Load
import SecretScan.Rule.Matcher
import SecretScan.Rule.Registry
import SecretScan.Scan.Batch
import SecretScan.Scan.Collect
import SecretScan.Scan.Entropy
import SecretScan.Scan.Requirement
import SecretScan.Scan.Unit
import SecretScan.Settings.Basic
import SecretScan.Settings.Load
import SecretScan.Settings.Template
import SecretScan.Settings.Use
import SecretScan.Text.Alnum
import SecretScan.Text.Basic
import SecretScan.Text.Blank
import SecretScan.Text.CaseFold
import SecretScan.Text.DecimalDigit
import SecretScan.Text.Lower
import SecretScan.Text.Quoted
import SecretScan.Text.Shape
import SecretScan.Text.Unprintable
import SecretScan.Text.Utf8
import SecretScan.Text.Width
import SecretScan.Toml.Document
import SecretScan.Toml.Number
import SecretScan.Toml.Table
import SecretScan.Toml.Text
import SecretScan.Yaml.Assembly
import SecretScan.Yaml.Binary
import SecretScan.Yaml.Cell
import SecretScan.Yaml.Fault
import SecretScan.Yaml.Graph
import SecretScan.Yaml.Merge
import SecretScan.Yaml.Place
import SecretScan.Yaml.Property
import SecretScan.Yaml.Scalar.Block
import SecretScan.Yaml.Scalar.Plain
import SecretScan.Yaml.Scalar.Quoted
import SecretScan.Yaml.Scalar.Typed
import SecretScan.Yaml.Tag
import SecretScan.Yaml.Token
import SecretScan.Yaml.Value
import SecretScan.Proofs.Pattern.Place
import SecretScan.Proofs.Pattern.Comment
import SecretScan.Proofs.Pattern.TrailingComment
import SecretScan.Proofs.Pattern.LineComment
import SecretScan.Proofs.Pattern.Settled
import SecretScan.Proofs.Finding.Location
import SecretScan.Proofs.Scan.Separate
import SecretScan.Proofs.Pattern.Grammar
import SecretScan.Proofs.Pattern.Lexing
import SecretScan.Proofs.Regex.Consumption
import SecretScan.Proofs.Rule.Catalog
import SecretScan.Proofs.Rule.Compilation
import SecretScan.Proofs.Rule.History
import SecretScan.Proofs.Command.Exit
import SecretScan.Proofs.Pattern.Familiar
import SecretScan.Proofs.Regex.Grouping
import SecretScan.Proofs.Rule.Agreement
import SecretScan.Proofs.Rule.Caching
import SecretScan.Proofs.Rule.Decoding
import SecretScan.Proofs.Settings.Known
import SecretScan.Proofs.Settings.Typing
import SecretScan.Proofs.Rule.Replacement
import SecretScan.Proofs.Scan.Pool
import SecretScan.Proofs.Scan.Loss
import SecretScan.Proofs.Scan.Discretion
import SecretScan.Proofs.Report.Concealment
import SecretScan.Proofs.Finding.Judgement
import SecretScan.Proofs.Scan.Iteration
import SecretScan.Proofs.Pattern.Form
import SecretScan.Proofs.Pattern.Correspondence
import SecretScan.Proofs.Pattern.Request
import SecretScan.Proofs.Pattern.Foreign
import SecretScan.Proofs.Pattern.Matching
import SecretScan.Proofs.Pattern.Pairing
import SecretScan.Proofs.Text.Ascii
import SecretScan.Proofs.Finding.Refetch
import SecretScan.Proofs.Scan.Requirement
import SecretScan.Proofs.Text.Lower
import SecretScan.Proofs.Scan.Verbatim
import SecretScan.Proofs.Finding.Neighbourhood
import SecretScan.Proofs.Datum.Spelling
import SecretScan.Proofs.Rule.Account
import SecretScan.Proofs.Rule.Announcement
import SecretScan.Proofs.Report.Reference
import SecretScan.Proofs.File.Tree
import SecretScan.Proofs.Scan.Collection
import SecretScan.Proofs.Command.Precedence
import SecretScan.Proofs.Console.Markup
import SecretScan.Proofs.Console.Screen
import SecretScan.Proofs.Report.Quotation
import SecretScan.Proofs.Finding.Distinct
import SecretScan.Proofs.Pattern.Jump
import SecretScan.Proofs.Scan.Entropy
