import ContactSegments.Calendar.Date
import ContactSegments.Calendar.Form
import ContactSegments.Calendar.Instant
import ContactSegments.Calendar.Written
import ContactSegments.Condition
import ContactSegments.Contact
import ContactSegments.ContactBook
import ContactSegments.Decimal.Binary64
import ContactSegments.Decimal.Shortest
import ContactSegments.Error
import ContactSegments.Field.Basic
import ContactSegments.Field.Catalog
import ContactSegments.Http.Call
import ContactSegments.Http.Endpoint
import ContactSegments.Http.MediaType
import ContactSegments.Http.Message
import ContactSegments.Http.RequestTarget
import ContactSegments.Http.Service
import ContactSegments.Json.Draft
import ContactSegments.Json.Reader
import ContactSegments.Json.Token
import ContactSegments.Json.Value
import ContactSegments.Json.Written
import ContactSegments.Membership
import ContactSegments.Predicate.Basic
import ContactSegments.Predicate.OfFilters
import ContactSegments.Proofs.Calendar.DayNumber
import ContactSegments.Proofs.Calendar.Form
import ContactSegments.Proofs.Calendar.Instant
import ContactSegments.Proofs.Calendar.Reading
import ContactSegments.Proofs.Calendar.Written
import ContactSegments.Proofs.Calendar.Zone
import ContactSegments.Proofs.Command.Calls
import ContactSegments.Proofs.Command.Course
import ContactSegments.Proofs.Command.Trace
import ContactSegments.Proofs.Condition.Check
import ContactSegments.Proofs.Condition.Drift
import ContactSegments.Proofs.Condition.Fault
import ContactSegments.Proofs.Condition.Literal
import ContactSegments.Proofs.Condition.Meaning
import ContactSegments.Proofs.ContactBook
import ContactSegments.Proofs.Http.Boundary
import ContactSegments.Proofs.Json.Draft
import ContactSegments.Proofs.Json.Reader
import ContactSegments.Proofs.Json.Token
import ContactSegments.Proofs.Json.Unknown
import ContactSegments.Proofs.Json.Value
import ContactSegments.Proofs.Keeping.Admission
import ContactSegments.Proofs.Keeping.Authoring
import ContactSegments.Proofs.Keeping.Evaluable
import ContactSegments.Proofs.Keeping.Listing
import ContactSegments.Proofs.Keeping.Shelves
import ContactSegments.Proofs.Membership.Page
import ContactSegments.Proofs.Membership.Stored
import ContactSegments.Proofs.Membership.Walk
import ContactSegments.Proofs.Metrics.Accounts
import ContactSegments.Proofs.Predicate.Holds
import ContactSegments.Proofs.Predicate.OfFilters
import ContactSegments.Proofs.SegmentTable
import ContactSegments.Proofs.Service.Action
import ContactSegments.Proofs.Service.Owner
import ContactSegments.Proofs.Service.Reading
import ContactSegments.Proofs.Service.Segments
import ContactSegments.Proofs.Sql.Like
import ContactSegments.Proofs.Sql.Meaning
import ContactSegments.Proofs.Sql.Placeholders
import ContactSegments.Proofs.Sql.Reading
import ContactSegments.Proofs.Tenant.Confinement
import ContactSegments.Proofs.Tenant.Requests
import ContactSegments.Proofs.Tenant.Run
import ContactSegments.Proofs.Text.Blank
import ContactSegments.Proofs.Text.Digits
import ContactSegments.Proofs.Text.Folding
import ContactSegments.Proofs.Text.Scanner
import ContactSegments.Proofs.Text.Search
import ContactSegments.Proofs.Traffic.Deletion
import ContactSegments.Proofs.Traffic.LastPart
import ContactSegments.Proofs.Traffic.Revision
import ContactSegments.Proofs.Traffic.Schedule
import ContactSegments.Proofs.Traffic.Script
import ContactSegments.Proofs.Traversal
import ContactSegments.Proofs.Uuid
import ContactSegments.Proofs.Wire.Persistence
import ContactSegments.Proofs.Wire.Written
import ContactSegments.Segment
import ContactSegments.SegmentTable
import ContactSegments.Service.Engine
import ContactSegments.Service.World
import ContactSegments.Settings.Basic
import ContactSegments.Settings.Environment
import ContactSegments.Settings.KeyRing
import ContactSegments.Settings.Limits
import ContactSegments.Settings.Value
import ContactSegments.Sql.Like
import ContactSegments.Sql.Statement
import ContactSegments.Sql.Truth
import ContactSegments.Text.Blank
import ContactSegments.Text.CasedTable
import ContactSegments.Text.Folding
import ContactSegments.Text.Hex
import ContactSegments.Text.LowercaseTable
import ContactSegments.Text.Percent
import ContactSegments.Text.Scanner
import ContactSegments.Text.Search
import ContactSegments.Uuid
import ContactSegments.Wire.Condition
import ContactSegments.Wire.Contact
import ContactSegments.Wire.Field
import ContactSegments.Wire.Segment
import ContactSegments.Wire.Settings
import ContactSegments.Word
import ContactSegments.Proofs.Calendar.DayRange
import ContactSegments.Proofs.Condition.Days
import ContactSegments.Proofs.Calendar.OneReading
import ContactSegments.Proofs.FlatBook
import ContactSegments.Proofs.Settings.Number
import ContactSegments.Proofs.Settings.Name
import ContactSegments.Proofs.Settings.Variables
import ContactSegments.Proofs.Membership.Static
import ContactSegments.Proofs.Condition.Content
import ContactSegments.Proofs.Condition.LetterCase
import ContactSegments.Proofs.Condition.Offered
