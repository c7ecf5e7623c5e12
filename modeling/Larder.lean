import Larder.Main
import Larder.Rehearsal.Session
import Larder.Cache.Typed
import Larder.Json.Keyed
import Larder.Settings.Validation
import Larder.Proofs.Cache.ReadKey
import Larder.Proofs.Cache.History
import Larder.Proofs.Store.Staleness
import Larder.Proofs.Store.Mismatch
import Larder.Proofs.Document.Patch
import Larder.Proofs.Store.Identifiers
import Larder.Proofs.Criteria.Order
import Larder.Proofs.Sql.Tokens
import Larder.Proofs.Sql.Grammar
import Larder.Proofs.Store.Emitted
import Larder.Proofs.Store.Wording
import Larder.Proofs.Json.Numbers
import Larder.Proofs.Json.RoundTrip
import Larder.Proofs.Sql.Meaning
import Larder.Proofs.Store.Chosen
import Larder.Proofs.Sql.Server
import Larder.Proofs.Store.Paging
import Larder.Proofs.Store.Answered
import Larder.Proofs.Store.Agreement
import Larder.Proofs.Cache.Isolation
import Larder.Proofs.Cache.Interchange
import Larder.Proofs.Events.Listeners
import Larder.Proofs.Events.Steps
import Larder.Proofs.Events.Tasks
import Larder.Proofs.Events.Endings
import Larder.Proofs.Events.Reports
import Larder.Proofs.Events.Progress
import Larder.Proofs.Events.Completion
import Larder.Proofs.Events.Changes
import Larder.Proofs.Events.Publishing
import Larder.Proofs.Uuid
import Larder.Proofs.Time.Calendar
import Larder.Proofs.Time.Rfc3339
import Larder.Proofs.Json.Records
import Larder.Proofs.Events.Courses
import Larder.Proofs.Confirmation.Payload
import Larder.Proofs.Events.InTurn
import Larder.Proofs.Events.Agreement
import Larder.Proofs.Confirmation.Delivered
import Larder.Proofs.Store.Refused
import Larder.Proofs.Store.Watched
import Larder.Proofs.Cache.Contention
import Larder.Proofs.Cache.EqualCriteria
import Larder.Proofs.Criteria.Sorting
import Larder.Proofs.Document.Memberwise
import Larder.Proofs.Store.Patched
import Larder.Proofs.Json.TooDeep
import Larder.Proofs.Cache.Survival
import Larder.Proofs.Number.Nearest
import Larder.Proofs.Criteria.Integers
import Larder.Proofs.Store.Reading
import Larder.Proofs.Store.Writing
import Larder.Proofs.Store.Batches
import Larder.Proofs.Settings.Validation
import Larder.Proofs.Events.Deadlines
import Larder.Proofs.Url.PercentEncoding
import Larder.Proofs.Url.Server
import Larder.Proofs.Settings.Credentials
import Larder.Proofs.Number.Digits
import Larder.Proofs.Settings.Layers
import Larder.Proofs.Settings.Texts
import Larder.Proofs.Settings.Arrival
import Larder.Proofs.Events.Alone
import Larder.Proofs.Events.Waiting
import Larder.Proofs.Events.FinishTimes
import Larder.Proofs.Events.OwnTime
import Larder.Proofs.Events.AllAtOnce
import Larder.Proofs.Settings.Connection
import Larder.Proofs.Settings.Accepted
import Larder.Proofs.Criteria.RoundTrip
import Larder.Proofs.Expiry
import Larder.Proofs.Cache.HandedBack
import Larder.Proofs.Error
