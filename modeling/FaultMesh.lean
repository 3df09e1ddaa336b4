import FaultMesh.Builtin
import FaultMesh.Client
import FaultMesh.Code
import FaultMesh.CommandLine
import FaultMesh.Config
import FaultMesh.Config.Expansion
import FaultMesh.Config.Source
import FaultMesh.Datum
import FaultMesh.Decimal.Binary64
import FaultMesh.Decimal.Double
import FaultMesh.Decimal.Integer
import FaultMesh.Decimal.Scaled
import FaultMesh.Decimal.Shortest
import FaultMesh.Definition
import FaultMesh.Definition.Json
import FaultMesh.Environment
import FaultMesh.Fault
import FaultMesh.Fault.Cause
import FaultMesh.Fault.Reading
import FaultMesh.Fault.StackTrace
import FaultMesh.Fault.Wire
import FaultMesh.Http.Message
import FaultMesh.Http.Target
import FaultMesh.Http.Token
import FaultMesh.Inbound
import FaultMesh.Json.Kept
import FaultMesh.Json.Lexeme
import FaultMesh.Json.Node
import FaultMesh.Json.Problem
import FaultMesh.Json.Reader
import FaultMesh.Json.Value
import FaultMesh.Json.Visitor
import FaultMesh.Json.Writer
import FaultMesh.Log
import FaultMesh.Log.Filter
import FaultMesh.Log.Sink
import FaultMesh.Main
import FaultMesh.Network.Address
import FaultMesh.OrderedMap
import FaultMesh.Probe
import FaultMesh.Program
import FaultMesh.Proofs.Calls
import FaultMesh.Proofs.Client.Addressing
import FaultMesh.Proofs.Client.Outcomes
import FaultMesh.Proofs.Client.PathPrefix
import FaultMesh.Proofs.Code
import FaultMesh.Proofs.Config
import FaultMesh.Proofs.Config.Expansion
import FaultMesh.Proofs.Config.Placeholders
import FaultMesh.Proofs.Config.Untouched
import FaultMesh.Proofs.Datum
import FaultMesh.Proofs.Decimal.Digits
import FaultMesh.Proofs.Decimal.Integers
import FaultMesh.Proofs.Decimal.Rounding
import FaultMesh.Proofs.Decimal.Scaling
import FaultMesh.Proofs.Definition
import FaultMesh.Proofs.Fault.Frames
import FaultMesh.Proofs.Fault.Looks
import FaultMesh.Proofs.Fault.Shapes
import FaultMesh.Proofs.Forwarding
import FaultMesh.Proofs.Http.Target
import FaultMesh.Proofs.Inbound
import FaultMesh.Proofs.Json.Carrier
import FaultMesh.Proofs.Json.Exact
import FaultMesh.Proofs.Json.Nesting
import FaultMesh.Proofs.Json.Numerals
import FaultMesh.Proofs.Json.Records
import FaultMesh.Proofs.Json.Rereading
import FaultMesh.Proofs.Json.RoundTrip
import FaultMesh.Proofs.Json.Strings
import FaultMesh.Proofs.Json.Values
import FaultMesh.Proofs.Json.Visitor
import FaultMesh.Proofs.Json.Written
import FaultMesh.Proofs.Network.Address
import FaultMesh.Proofs.OrderedMap
import FaultMesh.Proofs.Outcome
import FaultMesh.Proofs.Probe
import FaultMesh.Proofs.Regex
import FaultMesh.Proofs.Regex.Language
import FaultMesh.Proofs.Registry.Collisions
import FaultMesh.Proofs.Registry.Definitions
import FaultMesh.Proofs.Registry.Loading
import FaultMesh.Proofs.Registry.Merged
import FaultMesh.Proofs.Registry.Paths
import FaultMesh.Proofs.Relay
import FaultMesh.Proofs.Reporter
import FaultMesh.Proofs.Reporter.Binding
import FaultMesh.Proofs.Reporter.Disclosure
import FaultMesh.Proofs.Reporter.Logging
import FaultMesh.Proofs.Reporter.Making
import FaultMesh.Proofs.Service.Bounds
import FaultMesh.Proofs.Service.Catalog
import FaultMesh.Proofs.Service.Locale
import FaultMesh.Proofs.Service.Paging
import FaultMesh.Proofs.Service.PathGate
import FaultMesh.Proofs.Service.StandardGate
import FaultMesh.Proofs.Service.Startup
import FaultMesh.Proofs.Session
import FaultMesh.Proofs.Template.Grammar
import FaultMesh.Proofs.Template.Lookup
import FaultMesh.Proofs.Template.Pieces
import FaultMesh.Proofs.Template.Rendering
import FaultMesh.Proofs.Text.Blank
import FaultMesh.Proofs.Text.CaseFold
import FaultMesh.Proofs.Text.Cut
import FaultMesh.Proofs.Text.Lines
import FaultMesh.Proofs.Text.Utf8
import FaultMesh.Proofs.Toml.Keys
import FaultMesh.Proofs.Toml.Records
import FaultMesh.Proofs.Url.Form
import FaultMesh.Proofs.Url.Host
import FaultMesh.Proofs.Url.Punycode
import FaultMesh.Proofs.Url.Rereading
import FaultMesh.Proofs.Url.Tails
import FaultMesh.Proofs.Url.Web
import FaultMesh.Regex
import FaultMesh.Regex.CharSet
import FaultMesh.Regex.Pattern
import FaultMesh.Registry
import FaultMesh.Registry.Source
import FaultMesh.Reporter
import FaultMesh.Schema.Mismatch
import FaultMesh.Service
import FaultMesh.Service.Catalog
import FaultMesh.Service.Context
import FaultMesh.Service.Paging
import FaultMesh.Service.Parameter
import FaultMesh.Service.PathGate
import FaultMesh.Service.Pattern
import FaultMesh.Service.Route
import FaultMesh.Session
import FaultMesh.Template
import FaultMesh.Text.Base64
import FaultMesh.Text.Blank
import FaultMesh.Text.CaseFold
import FaultMesh.Text.Cut
import FaultMesh.Text.Property
import FaultMesh.Text.Quoted
import FaultMesh.Text.Utf8
import FaultMesh.Toml.Document
import FaultMesh.Toml.Lexeme
import FaultMesh.Toml.Reader
import FaultMesh.Toml.Scalar
import FaultMesh.Toml.Tree
import FaultMesh.Toml.Value
import FaultMesh.Url
import FaultMesh.Url.Form
import FaultMesh.Url.Host
import FaultMesh.Url.Percent
import FaultMesh.Url.Punycode
