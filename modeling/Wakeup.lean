import Wakeup.Calendar.Conversion
import Wakeup.Calendar.Timestamp
import Wakeup.Json.Tokens
import Wakeup.Text.Quoted
import Wakeup.Text.Padded
import Wakeup.Text.Reader
import Wakeup.Scheduler
import Wakeup.Service.Recorder
import Wakeup.Service.Idle
import Wakeup.Domain.Name
import Wakeup.Events.Client
import Wakeup.Generator
import Wakeup.Trigger
import Wakeup.Identifier
import Wakeup.Number.Decimal
import Wakeup.Proofs.Calendar.Days
import Wakeup.Proofs.Schedule.Minute
import Wakeup.Proofs.Schedule.Delay
import Wakeup.Proofs.Schedule.Expression
import Wakeup.Proofs.Plan.Minutes
import Wakeup.Proofs.Script.Steps
import Wakeup.Proofs.Script.Traces
import Wakeup.Proofs.Script.Draws
import Wakeup.Proofs.Script.Pool
import Wakeup.Proofs.Script.Substitution
import Wakeup.Proofs.Service.Recorder
import Wakeup.Proofs.Service.History
import Wakeup.Proofs.Scheduler.Jobs
import Wakeup.Proofs.Scheduler.Retry
import Wakeup.Proofs.Scheduler.Attachment
import Wakeup.Proofs.Scheduler.Exchanges
import Wakeup.Proofs.Scheduler.Isolation
import Wakeup.Proofs.Scheduler.Attempts
import Wakeup.Proofs.Scheduler.Identifiers
import Wakeup.Proofs.Scheduler.Payloads
import Wakeup.Proofs.Text.Utf8
import Wakeup.Proofs.Json.Spelling
import Wakeup.Proofs.Json.Decode
import Wakeup.Proofs.Events.Requests
import Wakeup.Proofs.Events.Answers
import Wakeup.Proofs.Events.Codes
import Wakeup.Proofs.Events.Retries
import Wakeup.Proofs.Service.Uses
import Wakeup.Proofs.Number.Numerals
import Wakeup.Proofs.Calendar.Timestamps
import Wakeup.Proofs.Json.Records
import Wakeup.Proofs.Json.RoundTrip
import Wakeup.Proofs.Number.Binary64
import Wakeup.Proofs.Plan.Waits
import Wakeup.Proofs.Number.Nearest
import Wakeup.Proofs.Plan.Headroom
import Wakeup.Proofs.Plan.Margins
import Wakeup.Proofs.Identifier.Grouping
import Wakeup.Proofs.Identifier.Spelling
import Wakeup.Proofs.Identifier.Keys
import Wakeup.Proofs.Calendar.Order
import Wakeup.Proofs.Schedule.Order
import Wakeup.Proofs.Schedule.Monotone
