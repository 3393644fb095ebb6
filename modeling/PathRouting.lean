import PathRouting.Config
import PathRouting.Constraint
import PathRouting.Document
import PathRouting.Endpoint
import PathRouting.Env
import PathRouting.Error
import PathRouting.Http.Header
import PathRouting.Http.Status
import PathRouting.Http.Token
import PathRouting.Http.Uri
import PathRouting.Naming
import PathRouting.OrderedMap
import PathRouting.Params
import PathRouting.Proofs.ConstraintAnchoring
import PathRouting.Proofs.ForwardedLines
import PathRouting.Proofs.LateBinding
import PathRouting.Proofs.Naming.CamelCase
import PathRouting.Proofs.Naming.CleanPath
import PathRouting.Proofs.Naming.Joined
import PathRouting.Proofs.Naming.LowerCase
import PathRouting.Proofs.Naming.RouteName
import PathRouting.Proofs.OrderedMaps
import PathRouting.Proofs.Regex.ExtendedBrackets
import PathRouting.Proofs.Regex.Extending
import PathRouting.Proofs.Regex.Matches
import PathRouting.Proofs.Regex.Readers
import PathRouting.Proofs.Regex.Reading
import PathRouting.Proofs.Regex.Wrapping
import PathRouting.Proofs.Router.AbsoluteUrls
import PathRouting.Proofs.Router.Authority
import PathRouting.Proofs.Router.CollectedParams
import PathRouting.Proofs.Router.Flattening
import PathRouting.Proofs.Router.ForwardedHost
import PathRouting.Proofs.Router.GeneratedPaths
import PathRouting.Proofs.Router.Indices
import PathRouting.Proofs.Router.Locality
import PathRouting.Proofs.Router.Nesting
import PathRouting.Proofs.Router.Record
import PathRouting.Proofs.Router.Refusal
import PathRouting.Proofs.Router.RouteVerbs
import PathRouting.Proofs.Router.Scan
import PathRouting.Proofs.Template.Boundaries
import PathRouting.Proofs.Template.CanonicalPaths
import PathRouting.Proofs.Template.CaptureStack
import PathRouting.Proofs.Template.Compilation
import PathRouting.Proofs.Template.Compiled
import PathRouting.Proofs.Template.Constraining
import PathRouting.Proofs.Template.Delimited
import PathRouting.Proofs.Template.Grammar
import PathRouting.Proofs.Template.LeadingSlash
import PathRouting.Proofs.Template.LiveGroups
import PathRouting.Proofs.Template.Matching
import PathRouting.Proofs.Template.PathShape
import PathRouting.Proofs.Template.Peeking
import PathRouting.Proofs.Template.Printing
import PathRouting.Proofs.Template.Queries
import PathRouting.Proofs.Template.Rendering
import PathRouting.Proofs.Template.RoundTrip
import PathRouting.Proofs.Template.SegmentTree
import PathRouting.Proofs.Template.TokenSpans
import PathRouting.Proofs.Template.Tokens
import PathRouting.Proofs.Template.Walking
import PathRouting.Proofs.Template.Ways
import PathRouting.Proofs.Url.Separators
import PathRouting.Proofs.VerbSpelling
import PathRouting.Regex.Basic
import PathRouting.Regex.Bracket
import PathRouting.Regex.CharSet
import PathRouting.Regex.Escape
import PathRouting.Regex.Fault
import PathRouting.Regex.Match
import PathRouting.Regex.Parser
import PathRouting.Regex.Pattern
import PathRouting.Regex.Size
import PathRouting.Registry
import PathRouting.Reply
import PathRouting.Response
import PathRouting.Route
import PathRouting.Router.Basic
import PathRouting.Router.Build
import PathRouting.Router.Dispatch
import PathRouting.Router.Generation
import PathRouting.Router.Scope
import PathRouting.SortedMap
import PathRouting.Target
import PathRouting.Template.Basic
import PathRouting.Template.Expand
import PathRouting.Template.Match
import PathRouting.Template.Position
import PathRouting.Template.Segment
import PathRouting.Template.Token
import PathRouting.Text.Form
import PathRouting.Text.Integer
import PathRouting.Text.Percent
import PathRouting.Text.Pieces
import PathRouting.Text.Uuid
import PathRouting.Unicode.Blank
import PathRouting.Unicode.Casing.Context
import PathRouting.Unicode.Casing.Fold
import PathRouting.Unicode.Casing.Lower
import PathRouting.Unicode.Casing.LowerText
import PathRouting.Unicode.Casing.Upper
import PathRouting.Unicode.CodeRange
import PathRouting.Unicode.DecimalDigit
import PathRouting.Unicode.Normal.CombiningClass
import PathRouting.Unicode.Normal.Composed
import PathRouting.Unicode.Normal.Decomposition
import PathRouting.Unicode.Property
import PathRouting.Unicode.Property.Age
import PathRouting.Unicode.Property.Alphabetic
import PathRouting.Unicode.Property.Binary
import PathRouting.Unicode.Property.Category
import PathRouting.Unicode.Property.Script
import PathRouting.Unicode.Property.Segmentation
import PathRouting.Unicode.Replacement
import PathRouting.Unicode.RunTable
import PathRouting.Url.Base
import PathRouting.Url.Domain
import PathRouting.Url.Domain.Direction
import PathRouting.Url.Domain.Joiner
import PathRouting.Url.Domain.Mapping
import PathRouting.Url.Domain.Punycode
import PathRouting.Url.Fault
import PathRouting.Url.Host
import PathRouting.Url.Ipv4
import PathRouting.Url.Ipv6
import PathRouting.Verb
