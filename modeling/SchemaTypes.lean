import SchemaTypes.Cache
import SchemaTypes.Command
import SchemaTypes.Command.Arguments
import SchemaTypes.Command.Help
import SchemaTypes.Command.Report
import SchemaTypes.Config
import SchemaTypes.Cursor
import SchemaTypes.Digest
import SchemaTypes.Element
import SchemaTypes.Json
import SchemaTypes.Json.Finite
import SchemaTypes.Json.Layout
import SchemaTypes.Json.Reader
import SchemaTypes.Json.Written
import SchemaTypes.Log
import SchemaTypes.Main
import SchemaTypes.Node
import SchemaTypes.Node.Kind
import SchemaTypes.Node.Slot
import SchemaTypes.Node.Wire
import SchemaTypes.Overrides
import SchemaTypes.Path
import SchemaTypes.Pattern
import SchemaTypes.Pattern.Match
import SchemaTypes.Pattern.Trace
import SchemaTypes.Schema.Assembly
import SchemaTypes.Schema.Cached
import SchemaTypes.Schema.Construct
import SchemaTypes.Schema.Grammar
import SchemaTypes.Schema.Reading
import SchemaTypes.Server
import SchemaTypes.Service
import SchemaTypes.Service.Call
import SchemaTypes.Service.Dispatch
import SchemaTypes.Service.Route
import SchemaTypes.Service.Submission
import SchemaTypes.Text.Blank
import SchemaTypes.Text.Capital
import SchemaTypes.Text.Digit
import SchemaTypes.Text.Hexadecimal
import SchemaTypes.Text.Loose
import SchemaTypes.Text.Numeral
import SchemaTypes.Text.Printable
import SchemaTypes.Text.Quoted
import SchemaTypes.Text.Ranges
import SchemaTypes.Text.Search
import SchemaTypes.Text.Split
import SchemaTypes.TypeName
import SchemaTypes.Xml.Charset
import SchemaTypes.Xml.Content
import SchemaTypes.Xml.Declaration
import SchemaTypes.Xml.Doctype
import SchemaTypes.Xml.Doctype.Token
import SchemaTypes.Xml.Document
import SchemaTypes.Xml.Encoding
import SchemaTypes.Xml.Entity
import SchemaTypes.Xml.Error
import SchemaTypes.Xml.Letters
import SchemaTypes.Xml.Namespace
import SchemaTypes.Xml.Scan
import SchemaTypes.Xml.Tag
import SchemaTypes.Proofs.Pattern.Following
import SchemaTypes.Proofs.Cursor.Siblings
import SchemaTypes.Proofs.Pattern.Result
import SchemaTypes.Proofs.Node.Truncation
import SchemaTypes.Proofs.Schema.Outline
import SchemaTypes.Proofs.Cursor.Remarks
import SchemaTypes.Proofs.Pattern.Descent
import SchemaTypes.Proofs.Pattern.Ending
import SchemaTypes.Proofs.Pattern.Indentation
import SchemaTypes.Proofs.Pattern.Reading
import SchemaTypes.Proofs.Pattern.Remarks
import SchemaTypes.Proofs.Schema.Calls
import SchemaTypes.Proofs.Schema.Depth
import SchemaTypes.Proofs.Schema.Remarks
import SchemaTypes.Proofs.Node.Shape
import SchemaTypes.Proofs.Schema.Shape
import SchemaTypes.Proofs.Association
import SchemaTypes.Proofs.Overrides.Sorted
import SchemaTypes.Proofs.Config.Fingerprint
import SchemaTypes.Proofs.Cache.Operations
import SchemaTypes.Proofs.Cache.Run
import SchemaTypes.Proofs.Element.Correspondence
import SchemaTypes.Proofs.Schema.Likeness
import SchemaTypes.Proofs.Schema.Agreement
import SchemaTypes.Proofs.Schema.Meaning
import SchemaTypes.Proofs.Schema.Key
import SchemaTypes.Proofs.Cache.Ledger
import SchemaTypes.Proofs.Newest
import SchemaTypes.Proofs.Cache.History
import SchemaTypes.Proofs.Cache.HitLaw
import SchemaTypes.Proofs.Schema.Transparency
import SchemaTypes.Proofs.Service.Transparency
import SchemaTypes.Proofs.Schema.Cardinality
import SchemaTypes.Proofs.Command.Ending
import SchemaTypes.Proofs.Node.Wire
import SchemaTypes.Proofs.Schema.TopLevel
import SchemaTypes.Proofs.Schema.Wrapper
import SchemaTypes.Proofs.Node.Inside
import SchemaTypes.Proofs.Schema.SimpleTypes
import SchemaTypes.Proofs.TypeName.Spelling
import SchemaTypes.Proofs.Config.Settings
import SchemaTypes.Proofs.Schema.FieldSources
import SchemaTypes.Proofs.Schema.NamedTypes
import SchemaTypes.Proofs.Node.Acceptance
import SchemaTypes.Proofs.Pattern.Omission
import SchemaTypes.Proofs.Schema.Idle
import SchemaTypes.Proofs.Schema.Placement
import SchemaTypes.Proofs.Node.Merging
import SchemaTypes.Proofs.Pattern.Chain
import SchemaTypes.Proofs.Pattern.Limits
import SchemaTypes.Proofs.Text.Blank
import SchemaTypes.Proofs.Text.Loose
import SchemaTypes.Proofs.Text.Numeral
import SchemaTypes.Proofs.Overrides.Update
import SchemaTypes.Proofs.Config.Pairs
import SchemaTypes.Proofs.Config.Composition
import SchemaTypes.Proofs.Config.Written
import SchemaTypes.Proofs.Pattern.Building
import SchemaTypes.Proofs.Cursor.Moves
import SchemaTypes.Proofs.Node.Listing
