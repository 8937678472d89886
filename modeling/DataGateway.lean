import DataGateway.Calendar.Date
import DataGateway.Calendar.Stamp
import DataGateway.Fault
import DataGateway.Fault.Incident
import DataGateway.Fault.Misuse
import DataGateway.Fault.Refusal
import DataGateway.Fields
import DataGateway.Filter.Condition
import DataGateway.Filter.Spec
import DataGateway.Gateway.Action
import DataGateway.Gateway.Conversation
import DataGateway.Gateway.Host
import DataGateway.Gateway.Operation
import DataGateway.Gateway.Response
import DataGateway.Hosted.Adapter
import DataGateway.Hosted.Client
import DataGateway.Json.Decode
import DataGateway.Json.Encode
import DataGateway.Json.Octets
import DataGateway.Json.Text
import DataGateway.Number.Binary64
import DataGateway.Number.Decimal
import DataGateway.Number.Numeral
import DataGateway.Number.Power
import DataGateway.Offline.Adapter
import DataGateway.Offline.Backend
import DataGateway.Offline.Row
import DataGateway.Proofs.Calendar.Date
import DataGateway.Proofs.Calendar.Stamp
import DataGateway.Proofs.Columns
import DataGateway.Proofs.Except
import DataGateway.Proofs.Fault.Sparing
import DataGateway.Proofs.Fields
import DataGateway.Proofs.Filter.Absence
import DataGateway.Proofs.Filter.Comparison
import DataGateway.Proofs.Filter.Meaning
import DataGateway.Proofs.Filter.Spec
import DataGateway.Proofs.Filter.Wire
import DataGateway.Proofs.Gateway.Action
import DataGateway.Proofs.Gateway.Host
import DataGateway.Proofs.Gateway.Resolution
import DataGateway.Proofs.Gateway.Response
import DataGateway.Proofs.Gateway.Session
import DataGateway.Proofs.Hosted.Answer
import DataGateway.Proofs.Hosted.Meaning
import DataGateway.Proofs.Hosted.Page
import DataGateway.Proofs.Hosted.Session
import DataGateway.Proofs.Json.Document
import DataGateway.Proofs.Json.Grammar
import DataGateway.Proofs.Json.Limits
import DataGateway.Proofs.Json.Normal
import DataGateway.Proofs.Json.Number
import DataGateway.Proofs.Json.Reading
import DataGateway.Proofs.Json.Recognition
import DataGateway.Proofs.Json.RoundTrip
import DataGateway.Proofs.Json.Text
import DataGateway.Proofs.Listing
import DataGateway.Proofs.Number.Binary64
import DataGateway.Proofs.Number.Decimal
import DataGateway.Proofs.Number.Numeral
import DataGateway.Proofs.Offline.Accounts
import DataGateway.Proofs.Offline.Batch
import DataGateway.Proofs.Offline.Change
import DataGateway.Proofs.Offline.Commit
import DataGateway.Proofs.Offline.Effect
import DataGateway.Proofs.Offline.Failure
import DataGateway.Proofs.Offline.Frame
import DataGateway.Proofs.Offline.Ids
import DataGateway.Proofs.Offline.Insertion
import DataGateway.Proofs.Offline.Keyed
import DataGateway.Proofs.Offline.Members
import DataGateway.Proofs.Offline.Mirror
import DataGateway.Proofs.Offline.Naming
import DataGateway.Proofs.Offline.Ordering
import DataGateway.Proofs.Offline.Page
import DataGateway.Proofs.Offline.Paging
import DataGateway.Proofs.Offline.Profile
import DataGateway.Proofs.Offline.ReadBack
import DataGateway.Proofs.Offline.Run
import DataGateway.Proofs.Offline.Saved
import DataGateway.Proofs.Offline.Selection
import DataGateway.Proofs.Offline.Session
import DataGateway.Proofs.Offline.Snapshot
import DataGateway.Proofs.Offline.Sparing
import DataGateway.Proofs.Offline.Transfer
import DataGateway.Proofs.Offline.Update
import DataGateway.Proofs.Offline.Upsert
import DataGateway.Proofs.Offline.Work
import DataGateway.Proofs.OneRow
import DataGateway.Proofs.Overwriting
import DataGateway.Proofs.Paging
import DataGateway.Proofs.Query.Ordering
import DataGateway.Proofs.Query.Page
import DataGateway.Proofs.Relational.Denial
import DataGateway.Proofs.Relational.Discipline
import DataGateway.Proofs.Relational.Durability
import DataGateway.Proofs.Relational.Expansion
import DataGateway.Proofs.Relational.Guarded
import DataGateway.Proofs.Relational.Page
import DataGateway.Proofs.Relational.Session
import DataGateway.Proofs.Relational.Trace
import DataGateway.Proofs.Resolution
import DataGateway.Proofs.Rest.Answer
import DataGateway.Proofs.Rest.Bearer
import DataGateway.Proofs.Rest.Call
import DataGateway.Proofs.Rest.Inquiry
import DataGateway.Proofs.Rest.OneRow
import DataGateway.Proofs.Rest.Page
import DataGateway.Proofs.Rest.Requests
import DataGateway.Proofs.Rest.Run
import DataGateway.Proofs.Rest.Session
import DataGateway.Proofs.Rest.Url
import DataGateway.Proofs.Session
import DataGateway.Proofs.Setup.Plan
import DataGateway.Proofs.Setup.Registry
import DataGateway.Proofs.Sorting.Natural
import DataGateway.Proofs.Sql.Alteration
import DataGateway.Proofs.Sql.Bounds
import DataGateway.Proofs.Sql.Grid
import DataGateway.Proofs.Sql.Meaning
import DataGateway.Proofs.Sql.Names
import DataGateway.Proofs.Sql.Numbering
import DataGateway.Proofs.Sql.Numerals
import DataGateway.Proofs.Sql.Overwriting
import DataGateway.Proofs.Sql.Placeholders
import DataGateway.Proofs.Sql.PlainName
import DataGateway.Proofs.Sql.Reading
import DataGateway.Proofs.Sql.Shape
import DataGateway.Proofs.Sql.Writing
import DataGateway.Proofs.Store.Cabinet
import DataGateway.Proofs.Store.Content
import DataGateway.Proofs.Store.Disk
import DataGateway.Proofs.Store.Entry
import DataGateway.Proofs.Store.Equivalence
import DataGateway.Proofs.Store.Replacement
import DataGateway.Proofs.Store.Ways
import DataGateway.Proofs.Text.Blank
import DataGateway.Proofs.Text.Containment
import DataGateway.Proofs.Text.Hex
import DataGateway.Proofs.Text.LikePattern
import DataGateway.Proofs.Text.Percent
import DataGateway.Proofs.Text.Search
import DataGateway.Proofs.Text.Utf8
import DataGateway.Proofs.Value.Comparison
import DataGateway.Proofs.Value.Equality
import DataGateway.Proofs.Value.Key
import DataGateway.Proofs.Value.Order
import DataGateway.Query.Options
import DataGateway.Query.Ordering
import DataGateway.Query.Selection
import DataGateway.Relational.Adapter
import DataGateway.Relational.Pool
import DataGateway.Rest.Adapter
import DataGateway.Rest.Reason
import DataGateway.Rest.Url
import DataGateway.Setup.Environment
import DataGateway.Setup.Interface
import DataGateway.Setup.Registry
import DataGateway.Setup.Telemetry
import DataGateway.Sorting.Boundary
import DataGateway.Sorting.Merge
import DataGateway.Sorting.Natural
import DataGateway.Sorting.Run
import DataGateway.Sql.Builder
import DataGateway.Sql.Identifier
import DataGateway.Sql.Placeholder
import DataGateway.Sql.Statement
import DataGateway.Store
import DataGateway.Store.Cabinet
import DataGateway.Store.Directory
import DataGateway.Store.Disk
import DataGateway.Store.Files
import DataGateway.Store.Memory
import DataGateway.Store.Path
import DataGateway.Text.Blank
import DataGateway.Text.Case
import DataGateway.Text.CaseTable
import DataGateway.Text.DecimalDigit
import DataGateway.Text.Encoding
import DataGateway.Text.Hex
import DataGateway.Text.LikePattern
import DataGateway.Text.Percent
import DataGateway.Text.Printable
import DataGateway.Text.Quoted
import DataGateway.Text.Search
import DataGateway.Text.Unit
import DataGateway.Text.Utf8
import DataGateway.Value.Access
import DataGateway.Value.Basic
import DataGateway.Value.Comparison
import DataGateway.Value.Key
import DataGateway.Value.Literal
