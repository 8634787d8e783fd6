import RecordRules.Catalog
import RecordRules.CommandLine
import RecordRules.CommandLine.Arguments
import RecordRules.CommandLine.Files
import RecordRules.Config
import RecordRules.Creation
import RecordRules.Employee
import RecordRules.Engine
import RecordRules.Engine.Cache
import RecordRules.Error
import RecordRules.Evaluation
import RecordRules.Json.Basic
import RecordRules.Json.Reader
import RecordRules.Json.Token
import RecordRules.Json.Writer
import RecordRules.Lint
import RecordRules.Main
import RecordRules.Number.Decimal
import RecordRules.Number.Double
import RecordRules.Number.Layout
import RecordRules.Number.Shortest
import RecordRules.Number.Word
import RecordRules.Proofs.Catalog.Confinement
import RecordRules.Proofs.Catalog.Failure
import RecordRules.Proofs.Catalog.History
import RecordRules.Proofs.Catalog.Rules
import RecordRules.Proofs.Catalog.Session
import RecordRules.Proofs.Catalog.Statistics
import RecordRules.Proofs.Catalog.Transparency
import RecordRules.Proofs.Catalog.Usability
import RecordRules.Proofs.CommandLine.Sources
import RecordRules.Proofs.Config.RoundTrip
import RecordRules.Proofs.Creation.Bounds
import RecordRules.Proofs.Creation.Combination
import RecordRules.Proofs.Creation.Conjunction
import RecordRules.Proofs.Distinct
import RecordRules.Proofs.Engine.Recency
import RecordRules.Proofs.Engine.Session
import RecordRules.Proofs.Evaluation.Calls
import RecordRules.Proofs.Evaluation.Comparators
import RecordRules.Proofs.Evaluation.Completion
import RecordRules.Proofs.Evaluation.Fields
import RecordRules.Proofs.Evaluation.ShortCircuit
import RecordRules.Proofs.Json.Numeral
import RecordRules.Proofs.Json.Reach
import RecordRules.Proofs.Json.RoundTrip
import RecordRules.Proofs.Json.Spelling
import RecordRules.Proofs.Json.Text
import RecordRules.Proofs.Lint.Agreement
import RecordRules.Proofs.Lint.Warnings
import RecordRules.Proofs.Number.Layout
import RecordRules.Proofs.Number.Nearest
import RecordRules.Proofs.Number.Order
import RecordRules.Proofs.Number.Reading
import RecordRules.Proofs.Record.RoundTrip
import RecordRules.Proofs.Results
import RecordRules.Proofs.Rule.Acceptance
import RecordRules.Proofs.Rule.Calls
import RecordRules.Proofs.Rule.Canonical
import RecordRules.Proofs.Rule.Frame
import RecordRules.Proofs.Rule.Grammar
import RecordRules.Proofs.Rule.Json
import RecordRules.Proofs.Rule.Limits
import RecordRules.Proofs.Rule.NestingLimit
import RecordRules.Proofs.Rule.Numerals
import RecordRules.Proofs.Rule.Path
import RecordRules.Proofs.Rule.Prefix
import RecordRules.Proofs.Rule.Refusal
import RecordRules.Proofs.Rule.RefusedToken
import RecordRules.Proofs.Rule.RoundTrip
import RecordRules.Proofs.Rule.Shape
import RecordRules.Proofs.Session
import RecordRules.Proofs.Text.Classes
import RecordRules.Proofs.Text.Cut
import RecordRules.Proofs.Text.Pieces
import RecordRules.Proofs.Token.Boundary
import RecordRules.Proofs.Token.Continuation
import RecordRules.Proofs.Token.Leniency
import RecordRules.Proofs.Token.Outcomes
import RecordRules.Proofs.Token.Shape
import RecordRules.Proofs.Token.Spacing
import RecordRules.Proofs.Usage.Average
import RecordRules.Proofs.Usage.Counters
import RecordRules.Proofs.Whitelist.CommaSeparated
import RecordRules.Record
import RecordRules.Rule.Basic
import RecordRules.Rule.Canonical
import RecordRules.Rule.Json
import RecordRules.Rule.Parser
import RecordRules.Rule.SyntaxError
import RecordRules.Text.Alphabetic
import RecordRules.Text.Blank
import RecordRules.Text.GraphemeExtend
import RecordRules.Text.Graphic
import RecordRules.Text.Numeric
import RecordRules.Text.Quoted
import RecordRules.Text.Ranges
import RecordRules.Text.Split
import RecordRules.Token.Basic
import RecordRules.Token.Lexer
import RecordRules.Usage
import RecordRules.Whitelist
