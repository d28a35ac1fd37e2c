import SourceText.Auth.Hmac
import SourceText.Auth.Sha256
import SourceText.Auth.Signature
import SourceText.Command.Arguments
import SourceText.Command.Run
import SourceText.Compact.Collapse
import SourceText.Compact.Comment
import SourceText.Compact.Compactor
import SourceText.Compact.Minifier
import SourceText.Compact.Script
import SourceText.Compact.Stylesheet
import SourceText.Console.Line
import SourceText.Console.Markup
import SourceText.Console.Page
import SourceText.Console.Table
import SourceText.Detect.Candidate
import SourceText.Detect.Detector
import SourceText.Detect.Engine
import SourceText.Detect.Fingerprint
import SourceText.Detect.Lexers
import SourceText.Detect.Pattern
import SourceText.Detect.StandardFingerprints
import SourceText.Format.Address
import SourceText.Format.Backend
import SourceText.Format.Formatter
import SourceText.Format.Header
import SourceText.Format.Parser
import SourceText.Http.Admission
import SourceText.Http.CrossOrigin
import SourceText.Http.Framework
import SourceText.Http.Message
import SourceText.Http.Operation
import SourceText.Http.Server
import SourceText.Json.Bytes
import SourceText.Json.Reader
import SourceText.Json.Value
import SourceText.Json.Writer
import SourceText.Language.Document
import SourceText.Language.Family
import SourceText.Language.Loader
import SourceText.Language.Registry
import SourceText.Language.Standard
import SourceText.Layout
import SourceText.Logging
import SourceText.Main
import SourceText.Number.Binary64
import SourceText.Number.Decimal
import SourceText.Number.Reader
import SourceText.Number.Shortest
import SourceText.Proofs.Auth.Recut
import SourceText.Proofs.Auth.Verification
import SourceText.Proofs.Command.Printing
import SourceText.Proofs.Compact.LineStructure
import SourceText.Proofs.Compact.Outcome
import SourceText.Proofs.Compact.Recompact
import SourceText.Proofs.Compact.Spread
import SourceText.Proofs.Compact.Squeeze
import SourceText.Proofs.Console.Page
import SourceText.Proofs.Detect.Guesses
import SourceText.Proofs.Detect.Leading
import SourceText.Proofs.Detect.Opinion
import SourceText.Proofs.Detect.Outranking
import SourceText.Proofs.Detect.Proposal
import SourceText.Proofs.Detect.Ranking
import SourceText.Proofs.Format.Outcome
import SourceText.Proofs.Http.Admission
import SourceText.Proofs.Http.Decision
import SourceText.Proofs.Json.Admitted
import SourceText.Proofs.Json.Layouts
import SourceText.Proofs.Json.Number
import SourceText.Proofs.Json.Quoted
import SourceText.Proofs.Language.History
import SourceText.Proofs.Language.Loading
import SourceText.Proofs.Language.Settled
import SourceText.Proofs.Layout.Bracket
import SourceText.Proofs.Layout.Cycle
import SourceText.Proofs.Layout.Gap
import SourceText.Proofs.Layout.Indentation
import SourceText.Proofs.Layout.Operation
import SourceText.Proofs.Layout.Rescan
import SourceText.Proofs.Layout.Writing
import SourceText.Proofs.Number.Integer
import SourceText.Proofs.Number.Monotone
import SourceText.Proofs.Number.Order
import SourceText.Proofs.Number.Rounding
import SourceText.Proofs.Number.Shortest
import SourceText.Proofs.Scan.Append
import SourceText.Proofs.Scan.Cursor
import SourceText.Proofs.Scan.Lexed
import SourceText.Proofs.Scan.Lexeme
import SourceText.Proofs.Scan.Masking
import SourceText.Proofs.Scan.Piece
import SourceText.Proofs.Scan.Regions
import SourceText.Proofs.Scan.Significant
import SourceText.Proofs.Scan.State
import SourceText.Proofs.Scan.Step
import SourceText.Proofs.Service.Agreement
import SourceText.Proofs.Settings.Items
import SourceText.Proofs.Settings.Kinds
import SourceText.Proofs.Settings.Layers
import SourceText.Proofs.Settings.Overrides
import SourceText.Proofs.Settings.Saved
import SourceText.Proofs.Success
import SourceText.Proofs.Text.Blanks
import SourceText.Proofs.Text.Hexadecimal
import SourceText.Proofs.Text.Raw
import SourceText.Proofs.Text.Split
import SourceText.Proofs.Unicode.Lower
import SourceText.Proofs.Unicode.Lowered
import SourceText.Proofs.Unicode.Utf8
import SourceText.Proofs.Value.Keys
import SourceText.Proofs.Value.LineEnds
import SourceText.Proofs.Value.Order
import SourceText.RawText
import SourceText.Record
import SourceText.Scan
import SourceText.Scan.State
import SourceText.Service.Basic
import SourceText.Service.Outcome
import SourceText.Service.Setup
import SourceText.Settings.Basic
import SourceText.Settings.Defaults
import SourceText.Settings.Document
import SourceText.Settings.Environment
import SourceText.Settings.Fault
import SourceText.Storage.Files
import SourceText.Storage.Path
import SourceText.Text
import SourceText.Text.Hexadecimal
import SourceText.Text.Quoted
import SourceText.Unicode.Case
import SourceText.Unicode.CaseTables
import SourceText.Unicode.CodeSet
import SourceText.Unicode.Digit
import SourceText.Unicode.Printable
import SourceText.Unicode.Utf8
import SourceText.Unicode.Wide
import SourceText.Unicode.Width
import SourceText.Unicode.Word
import SourceText.Value.Basic
import SourceText.Value.Equality
import SourceText.Value.Limit
import SourceText.Value.Misuse
import SourceText.Value.Shown
import SourceText.Value.Timestamp
import SourceText.Value.Written
import SourceText.Yaml.Base64
import SourceText.Yaml.Lexer
import SourceText.Yaml.Library
import SourceText.Yaml.Node
import SourceText.Yaml.Page
import SourceText.Yaml.Reader
import SourceText.Yaml.Scalar
import SourceText.Yaml.Source
import SourceText.Yaml.Tag
import SourceText.Yaml.Token
import SourceText.Yaml.Writer
