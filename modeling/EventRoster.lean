import EventRoster.Journal.Readable
import EventRoster.Ledger
import EventRoster.Registry.Step
import EventRoster.Failure.CauseGraph
import EventRoster.Failure.Verdict
import EventRoster.Proofs.Number.Decimal
import EventRoster.Proofs.Number.Reading
import EventRoster.Proofs.Number.Nearness
import EventRoster.Proofs.Number.Nearest
import EventRoster.Proofs.Time.Lifetime
import EventRoster.Proofs.Time.Date
import EventRoster.Proofs.Time.Instant
import EventRoster.Proofs.Text.Joined
import EventRoster.Proofs.Json.Strings
import EventRoster.Proofs.Json.Steps
import EventRoster.Proofs.Json.Grammar
import EventRoster.Proofs.Condition.Literals
import EventRoster.Proofs.Condition.Scan
import EventRoster.Proofs.Condition.RoundTrip
import EventRoster.Proofs.Condition.Image
import EventRoster.Proofs.Condition.Grammar
import EventRoster.Proofs.Condition.Equality
import EventRoster.Proofs.Condition.Joined
import EventRoster.Proofs.Condition.Refusals
import EventRoster.Proofs.Json.Members
import EventRoster.Proofs.Record.RoundTrip
import EventRoster.Proofs.Record.Survival
import EventRoster.Proofs.Record.Refusals
import EventRoster.Proofs.Record.NormalForm
import EventRoster.Proofs.Record.Fields
import EventRoster.Proofs.Record.Complaints
import EventRoster.Proofs.Record.Acceptance
import EventRoster.Proofs.Failure.Verdicts
import EventRoster.Proofs.Failure.Finality
import EventRoster.Proofs.Failure.Wrapping
import EventRoster.Proofs.Failure.Circles
import EventRoster.Proofs.Shelf
import EventRoster.Proofs.Store.History
import EventRoster.Proofs.Action
import EventRoster.Proofs.Schema.Calls
import EventRoster.Proofs.Schema.Binding
import EventRoster.Proofs.Schema.Outlook
import EventRoster.Proofs.Schema.Roles
import EventRoster.Proofs.Store.Wide
import EventRoster.Proofs.Store.Parity
import EventRoster.Proofs.Store.Enumeration
import EventRoster.Proofs.Store.Tenure
import EventRoster.Proofs.Store.Conduct
import EventRoster.Proofs.Store.Traces
import EventRoster.Proofs.Ledger
import EventRoster.Proofs.Chronicle
import EventRoster.Proofs.Pool.Calls
import EventRoster.Proofs.Pool.Inventory
import EventRoster.Proofs.Pool.Bookkeeping
import EventRoster.Proofs.Pool.Accounts
import EventRoster.Proofs.Pool.Founders
import EventRoster.Proofs.Pool.Outage
import EventRoster.Proofs.Pool.Setbacks
import EventRoster.Proofs.Registry.Moves
import EventRoster.Proofs.Registry.Leases
import EventRoster.Proofs.Registry.Custody
import EventRoster.Proofs.Registry.Openings
import EventRoster.Proofs.Registry.Readings
import EventRoster.Proofs.Settings.Environment
import EventRoster.Proofs.StoreUrl.Merging
import EventRoster.Proofs.StoreUrl.RoundTrip
import EventRoster.Proofs.StoreUrl.Refusals
import EventRoster.Proofs.Cql.Binding
import EventRoster.Proofs.Cql.Tokens
