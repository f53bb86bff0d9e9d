import StateExpr.Calendar.Date
import StateExpr.Calendar.Fault
import StateExpr.Calendar.Moment
import StateExpr.Calendar.Pattern
import StateExpr.Calendar.Reading
import StateExpr.Calendar.Speech
import StateExpr.Calendar.UserFormat
import StateExpr.Codec.Base64
import StateExpr.Codec.Percent
import StateExpr.Codec.Text
import StateExpr.Eval.Action
import StateExpr.Eval.Assign
import StateExpr.Eval.Basic
import StateExpr.Expr.Basic
import StateExpr.Expr.Check
import StateExpr.Expr.References
import StateExpr.Expr.Scope
import StateExpr.Expr.Signature
import StateExpr.Expr.Text
import StateExpr.Function.Ambient
import StateExpr.Function.Arguments
import StateExpr.Function.Arithmetic
import StateExpr.Function.Builtin
import StateExpr.Function.Chance
import StateExpr.Function.Collection
import StateExpr.Function.Comparison
import StateExpr.Function.Conversion
import StateExpr.Function.Object
import StateExpr.Function.Query
import StateExpr.Function.Table
import StateExpr.Function.Text
import StateExpr.Function.Time
import StateExpr.Function.Uri
import StateExpr.Json.Document
import StateExpr.Json.Number
import StateExpr.Json.Parser
import StateExpr.Json.Printer
import StateExpr.JsonPath.Basic
import StateExpr.JsonPath.Parser
import StateExpr.Number.Dyadic
import StateExpr.Number.Fixed
import StateExpr.Number.Reading
import StateExpr.Number.Shortest
import StateExpr.Number.Text
import StateExpr.Operator
import StateExpr.Regex.Class
import StateExpr.Regex.Lexeme
import StateExpr.Regex.Match
import StateExpr.Regex.Node
import StateExpr.Regex.Parser
import StateExpr.Regex.Pattern
import StateExpr.Regex.Size
import StateExpr.Text.Search
import StateExpr.Text.Words
import StateExpr.Unicode.Casing
import StateExpr.Unicode.Category
import StateExpr.Unicode.Composition
import StateExpr.Unicode.Derived
import StateExpr.Unicode.Direction
import StateExpr.Unicode.Folding
import StateExpr.Unicode.Named
import StateExpr.Unicode.Property
import StateExpr.Unicode.Ranges
import StateExpr.Unicode.Script
import StateExpr.Unicode.ScriptExtension
import StateExpr.Url.DomainName
import StateExpr.Url.Host
import StateExpr.Url.NameMapping
import StateExpr.Url.Parser
import StateExpr.Url.Punycode
import StateExpr.Value.Access
import StateExpr.Value.Basic
import StateExpr.Value.Order
import StateExpr.Value.Text
import StateExpr.XPath.Answer
import StateExpr.XPath.Basic
import StateExpr.XPath.Evaluate
import StateExpr.XPath.Functions
import StateExpr.XPath.Parser
import StateExpr.XPath.Token
import StateExpr.Xml.Basic
import StateExpr.Xml.Outline
import StateExpr.Xml.Parser
import StateExpr.Xml.Printer
import StateExpr.Zone.Basic
import StateExpr.Zone.Mapping
import StateExpr.Zone.Names
import StateExpr.Proofs.Congruence
import StateExpr.Proofs.Assignment
import StateExpr.Proofs.Resolution
import StateExpr.Proofs.Path
import StateExpr.Proofs.Lens
import StateExpr.Proofs.ReadOnly
import StateExpr.Proofs.Lexical
import StateExpr.Proofs.Compilation
import StateExpr.Proofs.ReturnType
import StateExpr.Proofs.References
import StateExpr.Proofs.Dependence
import StateExpr.Proofs.Settled
import StateExpr.Proofs.WellFormed
import StateExpr.Proofs.Scopes
import StateExpr.Proofs.Number.Form
import StateExpr.Proofs.Number.Rounding
import StateExpr.Proofs.Number.Digits
import StateExpr.Proofs.Number.Nearest
import StateExpr.Proofs.Number.Whole
import StateExpr.Proofs.Number.Shortest
import StateExpr.Proofs.Number.Spelling
import StateExpr.Proofs.Number.Text
import StateExpr.Proofs.Value
import StateExpr.Proofs.Json.Writer
import StateExpr.Proofs.Json.Number
import StateExpr.Proofs.Json.RoundTrip
import StateExpr.Proofs.Json.Texts
import StateExpr.Proofs.Calendar.Date
import StateExpr.Proofs.Calendar.Timestamp
import StateExpr.Proofs.Calendar.Ticks
import StateExpr.Proofs.Calendar.Shift
import StateExpr.Proofs.Equality
import StateExpr.Proofs.Comparison
import StateExpr.Proofs.Sets
import StateExpr.Proofs.Logic
import StateExpr.Proofs.Folding
import StateExpr.Proofs.Slot
import StateExpr.Proofs.Context
import StateExpr.Proofs.Interchange
import StateExpr.Proofs.Calls
import StateExpr.Proofs.Counts
import StateExpr.Proofs.Slices
import StateExpr.Proofs.Sorting
import StateExpr.Proofs.Occurrences
import StateExpr.Proofs.Pieces
import StateExpr.Proofs.Flattening
import StateExpr.Proofs.Merging
import StateExpr.Proofs.Calendar.Format
import StateExpr.Proofs.Calendar.Units
import StateExpr.Proofs.Calendar.Conversion
import StateExpr.Proofs.Calendar.Speech
import StateExpr.Proofs.Codec.Text
import StateExpr.Proofs.Codec.Binary
import StateExpr.Proofs.Grouping
import StateExpr.Proofs.Registry
import StateExpr.Proofs.Regex.Switches
import StateExpr.Proofs.Xml.Reading
import StateExpr.Proofs.Xml.Document
import StateExpr.Proofs.Xml.Outline
import StateExpr.Proofs.Xml.Values
import StateExpr.Proofs.Zone.Mapping
import StateExpr.Proofs.Comprehension
import StateExpr.Proofs.Codec.Order
import StateExpr.Proofs.Json.Document
import StateExpr.Proofs.Calendar.Truncation
import StateExpr.Proofs.Preorder
import StateExpr.Proofs.LocalPaths
import StateExpr.Proofs.Calendar.Quotation
