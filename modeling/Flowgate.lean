import Flowgate.Digest.Sha1
import Flowgate.Digest.Uuid
import Flowgate.Engine.Client
import Flowgate.Engine.Link
import Flowgate.Engine.Parameter
import Flowgate.Execution.Summary
import Flowgate.Failure
import Flowgate.Fault
import Flowgate.Gateway
import Flowgate.Host.Address
import Flowgate.Host.Direction
import Flowgate.Host.Joining
import Flowgate.Host.Label
import Flowgate.Host.Letter
import Flowgate.Host.Punycode
import Flowgate.Json.Basic
import Flowgate.Json.Literal
import Flowgate.Json.Loose
import Flowgate.Json.Octets
import Flowgate.Json.Reader
import Flowgate.Json.Writable
import Flowgate.Json.Writer
import Flowgate.Listing.Criteria
import Flowgate.Listing.Page
import Flowgate.Locator.Basic
import Flowgate.Locator.Error
import Flowgate.Locator.Host
import Flowgate.Locator.Symbol
import Flowgate.Log.Event
import Flowgate.Log.Line
import Flowgate.Log.Statement
import Flowgate.Log.Template
import Flowgate.Main
import Flowgate.Number.Binary64
import Flowgate.Number.Decimal
import Flowgate.Number.Numeral
import Flowgate.Number.Places
import Flowgate.Number.Rounding
import Flowgate.Number.Text
import Flowgate.Proofs.Agreement
import Flowgate.Proofs.Conduct
import Flowgate.Proofs.Course
import Flowgate.Proofs.Digest.Uuid
import Flowgate.Proofs.Engine.Address
import Flowgate.Proofs.Engine.Conduct
import Flowgate.Proofs.Engine.Course
import Flowgate.Proofs.Engine.Documented
import Flowgate.Proofs.Engine.Endpoint
import Flowgate.Proofs.Engine.FirstFailure
import Flowgate.Proofs.Engine.Key
import Flowgate.Proofs.Engine.Paging
import Flowgate.Proofs.Exchange
import Flowgate.Proofs.Execution.Average
import Flowgate.Proofs.Execution.Counts
import Flowgate.Proofs.Execution.Durations
import Flowgate.Proofs.Execution.Moments
import Flowgate.Proofs.Execution.Records
import Flowgate.Proofs.Execution.Tally
import Flowgate.Proofs.FailFast
import Flowgate.Proofs.Gateway.Language
import Flowgate.Proofs.Json.Fields
import Flowgate.Proofs.Json.Numeral
import Flowgate.Proofs.Json.RoundTrip
import Flowgate.Proofs.Json.Tidy
import Flowgate.Proofs.Listing.AnyCase
import Flowgate.Proofs.Listing.Composition
import Flowgate.Proofs.Listing.Matches
import Flowgate.Proofs.Listing.Pages
import Flowgate.Proofs.Listing.Places
import Flowgate.Proofs.Listing.Search
import Flowgate.Proofs.Listing.Selection
import Flowgate.Proofs.Listing.Tags
import Flowgate.Proofs.Number.Decimal
import Flowgate.Proofs.Number.Integer
import Flowgate.Proofs.Number.Ratio
import Flowgate.Proofs.Number.Sign
import Flowgate.Proofs.Number.Whole
import Flowgate.Proofs.Reading.Demand
import Flowgate.Proofs.Reading.Retelling
import Flowgate.Proofs.Reading.Success
import Flowgate.Proofs.Resource.Routing
import Flowgate.Proofs.Resource.Statistics
import Flowgate.Proofs.Text.LetterCase
import Flowgate.Proofs.Text.Lowercase
import Flowgate.Proofs.Text.Utf8
import Flowgate.Proofs.Time.Days
import Flowgate.Proofs.Time.Stamp
import Flowgate.Proofs.Tool.Conduct
import Flowgate.Proofs.Tool.Contract
import Flowgate.Proofs.Tool.Creation
import Flowgate.Proofs.Tool.ExecutionFilter
import Flowgate.Proofs.Tool.ExecutionId
import Flowgate.Proofs.Tool.Listing
import Flowgate.Proofs.Tool.Replacement
import Flowgate.Proofs.Tool.Replay
import Flowgate.Proofs.Tool.Validation
import Flowgate.Proofs.Url.Endpoint
import Flowgate.Proofs.Url.Path
import Flowgate.Proofs.Url.Percent
import Flowgate.Proofs.Workflow.Check
import Flowgate.Proofs.Workflow.Compile
import Flowgate.Proofs.Workflow.Grammar
import Flowgate.Proofs.Workflow.Links
import Flowgate.Proofs.Workflow.Names
import Flowgate.Proofs.Workflow.NodeId
import Flowgate.Proofs.Workflow.Payload
import Flowgate.Proofs.Workflow.Refusal
import Flowgate.Proofs.Workflow.Renaming
import Flowgate.Proofs.Workflow.Rendered
import Flowgate.Proofs.Workflow.Repeats
import Flowgate.Proofs.Workflow.Respelling
import Flowgate.Proofs.Workflow.Wiring
import Flowgate.Reading.Basic
import Flowgate.Reading.Issue
import Flowgate.Reading.Scalar
import Flowgate.Resource.Basic
import Flowgate.Resource.Read
import Flowgate.Service
import Flowgate.Settings.Basic
import Flowgate.Settings.VariableFile
import Flowgate.Text.Ascii
import Flowgate.Text.Blank
import Flowgate.Text.Composition
import Flowgate.Text.DecimalDigit
import Flowgate.Text.Hex
import Flowgate.Text.Lowercase
import Flowgate.Text.Part
import Flowgate.Text.Printable
import Flowgate.Text.Quoted
import Flowgate.Text.Ranges
import Flowgate.Text.Utf8
import Flowgate.Time.Calendar
import Flowgate.Time.Timestamp
import Flowgate.Tool.Argument
import Flowgate.Tool.Basic
import Flowgate.Tool.Call
import Flowgate.Tool.Compilation
import Flowgate.Tool.Schema
import Flowgate.Url.Basic
import Flowgate.Url.Form
import Flowgate.Url.Host
import Flowgate.Url.Percent
import Flowgate.Workflow.Check
import Flowgate.Workflow.Compile
import Flowgate.Workflow.Error
import Flowgate.Workflow.Graph
import Flowgate.Workflow.Identity
import Flowgate.Workflow.Layout
import Flowgate.Workflow.LooseLink
import Flowgate.Workflow.Payload
import Flowgate.Workflow.Port
import Flowgate.Workflow.Reading
import Flowgate.Workflow.Spec
