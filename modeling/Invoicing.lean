import Invoicing.Api.Send
import Invoicing.Api.SignedLink
import Invoicing.Api.View
import Invoicing.Api.Webhook
import Invoicing.Bus.Consumer
import Invoicing.Bus.Events
import Invoicing.Bus.Inbox
import Invoicing.Bus.Outbox
import Invoicing.Cli.Parse
import Invoicing.Commands.Credit
import Invoicing.Commands.Ctx
import Invoicing.Commands.Draft
import Invoicing.Commands.Issue
import Invoicing.Commands.Numbers
import Invoicing.Commands.Overflow
import Invoicing.Commands.Pay
import Invoicing.Commands.Publish
import Invoicing.Commands.Reminder
import Invoicing.Commands.Schedule
import Invoicing.Commands.Send
import Invoicing.Commands.Totals
import Invoicing.Domain.Cadence
import Invoicing.Domain.CadenceText
import Invoicing.Domain.Ids
import Invoicing.Domain.Invoice
import Invoicing.Domain.Money
import Invoicing.Domain.Schedule
import Invoicing.Lib.Base64Url
import Invoicing.Lib.Chrono
import Invoicing.Lib.ChronoText
import Invoicing.Lib.DateOrder
import Invoicing.Lib.DebugText
import Invoicing.Lib.Decimal
import Invoicing.Lib.DigitText
import Invoicing.Lib.Fallible
import Invoicing.Lib.Fitting
import Invoicing.Lib.Hmac
import Invoicing.Lib.InstantOrder
import Invoicing.Lib.Interleave
import Invoicing.Lib.Journal
import Invoicing.Lib.Json
import Invoicing.Lib.JsonText
import Invoicing.Lib.KeyedTable
import Invoicing.Lib.Labelled
import Invoicing.Lib.Mealy
import Invoicing.Lib.Merge
import Invoicing.Lib.Numerals
import Invoicing.Lib.OrderBy
import Invoicing.Lib.Placeholders
import Invoicing.Lib.Recurrence
import Invoicing.Lib.Register
import Invoicing.Lib.Rounding
import Invoicing.Lib.RowFormat
import Invoicing.Lib.SelectText
import Invoicing.Lib.Serial
import Invoicing.Lib.Series
import Invoicing.Lib.Session
import Invoicing.Lib.SplitText
import Invoicing.Lib.TextReader
import Invoicing.Lib.UnixPath
import Invoicing.Lib.Utf8Text
import Invoicing.Runs.Accepted
import Invoicing.Runs.Actions
import Invoicing.Runs.Announced
import Invoicing.Runs.Answers
import Invoicing.Runs.Atomic
import Invoicing.Runs.AuditLog
import Invoicing.Runs.Backends
import Invoicing.Runs.Books
import Invoicing.Runs.Callers
import Invoicing.Runs.Calls
import Invoicing.Runs.Channels
import Invoicing.Runs.Commands
import Invoicing.Runs.CreditLog
import Invoicing.Runs.Cycle
import Invoicing.Runs.Deliveries
import Invoicing.Runs.Dispatched
import Invoicing.Runs.Drain
import Invoicing.Runs.Early
import Invoicing.Runs.Forwarded
import Invoicing.Runs.Frozen
import Invoicing.Runs.Isolation
import Invoicing.Runs.Kept
import Invoicing.Runs.Keyed
import Invoicing.Runs.Lifecycle
import Invoicing.Runs.Listed
import Invoicing.Runs.MinorUnits
import Invoicing.Runs.Numbering
import Invoicing.Runs.OutboxOrder
import Invoicing.Runs.Overdue
import Invoicing.Runs.Overflow
import Invoicing.Runs.Parts
import Invoicing.Runs.Payloads
import Invoicing.Runs.Payments
import Invoicing.Runs.Periods
import Invoicing.Runs.Positive
import Invoicing.Runs.Process
import Invoicing.Runs.Producers
import Invoicing.Runs.Published
import Invoicing.Runs.Races
import Invoicing.Runs.ReadBack
import Invoicing.Runs.Recovery
import Invoicing.Runs.Recurring
import Invoicing.Runs.Relay
import Invoicing.Runs.Reminded
import Invoicing.Runs.Replay
import Invoicing.Runs.Reused
import Invoicing.Runs.Serialized
import Invoicing.Runs.Signed
import Invoicing.Runs.Stays
import Invoicing.Runs.Steps
import Invoicing.Runs.Subscriptions
import Invoicing.Runs.Taxed
import Invoicing.Runs.Terminal
import Invoicing.Runs.Undone
import Invoicing.Runs.Veto
import Invoicing.Runs.Viewed
import Invoicing.Runs.Written
import Invoicing.State.Adapter
import Invoicing.State.Events
import Invoicing.State.Transitions
import Invoicing.Store.Blob
import Invoicing.Store.BlobRef
import Invoicing.Store.Columns
import Invoicing.Store.Db
import Invoicing.Store.Listing
import Invoicing.Store.Lookups
import Invoicing.Store.PlainTexts
import Invoicing.Store.Queries
import Invoicing.Store.Rows
import Invoicing.Store.Sql
import Invoicing.Store.TimeText
import Invoicing.Tax.Laws
import Invoicing.Tax.Resolver
import Invoicing.Tax.Specification
import Invoicing.Ws.Handler
import Invoicing.Ws.Topics
