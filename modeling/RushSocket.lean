import RushSocket.Data.Table
import RushSocket.Data.Channel
import RushSocket.Data.HashOrder
import RushSocket.Data.TimedMap
import RushSocket.Data.Mailboxes
import RushSocket.Data.ReverseIndex
import RushSocket.Data.Text
import RushSocket.Data.Json.Number
import RushSocket.Data.Json.Value
import RushSocket.Data.Json.Text
import RushSocket.Data.Json.RoundTrip
import RushSocket.Data.Json.Object
import RushSocket.Transition.System
import RushSocket.Transition.Calls
import RushSocket.Transition.Visits
import RushSocket.Transition.Linearization
import RushSocket.Transition.Session
import RushSocket.Protocol.Channels
import RushSocket.Webhook
import RushSocket.Webhook.Worker
import RushSocket.Adapter.Namespace
import RushSocket.Adapter.Local
import RushSocket.Adapter.Relations
import RushSocket.Adapter.Membership
import RushSocket.Adapter.Admission
import RushSocket.Adapter.SignedIn
import RushSocket.Adapter.PresenceCalls
import RushSocket.Adapter.Bookkeeping
import RushSocket.Adapter.Attendance
import RushSocket.Adapter.Departure
import RushSocket.Adapter.Redis.Wire
import RushSocket.Adapter.Redis.WireRoundTrip
import RushSocket.Adapter.Redis.Commands
import RushSocket.Adapter.Redis.Presence
import RushSocket.Adapter.Redis.PresenceStore
import RushSocket.Adapter.Redis.Mirror
import RushSocket.Adapter.Redis.Failures
import RushSocket.Adapter.Redis.Occupancy
import RushSocket.App
import RushSocket.Protocol.Messages
import RushSocket.RateLimit
import RushSocket.RateLimit.Quota
import RushSocket.Cache
import RushSocket.Websocket.SocketId
import RushSocket.Auth.Purpose
import RushSocket.Websocket.Connection
import RushSocket.State
import RushSocket.Websocket.Subscribe
import RushSocket.Websocket.Lifecycle
import RushSocket.Websocket.Events
import RushSocket.Http.BodyDigest
import RushSocket.Http.Events
import RushSocket.Http.Routes
import RushSocket.Adapter.Redis.Vacancy
import RushSocket.Adapter.Redis.Readiness
import RushSocket.Adapter.Redis.Answers
import RushSocket.Adapter.Redis.Stats
import RushSocket.Adapter.Redis.Totals
import RushSocket.Adapter.Redis.Heartbeats
import RushSocket.Adapter.Redis.Rounds
import RushSocket.Adapter.Redis.Books
import RushSocket.Adapter.Redis.Freshness
import RushSocket.Server.Core
import RushSocket.Server.Response
import RushSocket.Server.Outcome
import RushSocket.Server.System
import RushSocket.Server.Agreement
import RushSocket.Server.Ledger
import RushSocket.Server.Determinism
import RushSocket.Server.Isolation
import RushSocket.Server.Broadcast
import RushSocket.Server.Latest
import RushSocket.Server.Frames
import RushSocket.Server.PayloadSize
import RushSocket.Server.Limits
import RushSocket.Server.Rejection
import RushSocket.Server.Replay
import RushSocket.Server.Identity
import RushSocket.Server.UserIndex
import RushSocket.Server.Authorisation
import RushSocket.Server.Roster
import RushSocket.Server.Convergence
import RushSocket.Server.Batch
import RushSocket.Server.Recipients
import RushSocket.Server.ClientEvents
import RushSocket.Server.Departures
import RushSocket.Server.Closing
import RushSocket.Http.Reads
import RushSocket.Server.Reports
import RushSocket.Data.TableSum
import RushSocket.Transition.Contributions
import RushSocket.Metrics.Updates
import RushSocket.Server.Gauges
import RushSocket.Cluster.Handlers
import RushSocket.Cluster.Occupancy
import RushSocket.Websocket.Loop
import RushSocket.Websocket.Backpressure
import RushSocket.Websocket.Heartbeat
import RushSocket.Cache.Expiry
import RushSocket.Adapter.ReverseIndex
import RushSocket.Data.Json.Fields
import RushSocket.Data.Json.Size
import RushSocket.Data.Pointwise
import RushSocket.Metrics
import RushSocket.Adapter.Redis.Metrics
import RushSocket.Adapter.Redis.Aggregate
import RushSocket.Adapter.Redis.Snapshots
import RushSocket.Adapter.Redis.Cleanup
import RushSocket.Adapter.Redis.Exchange
import RushSocket.Adapter.Redis.Courier
import RushSocket.Adapter.Redis.Mail
import RushSocket.Adapter.Redis.Provenance
import RushSocket.Adapter.Redis.Questions
import RushSocket.Adapter.Redis.Listening
import RushSocket.Adapter.Redis.Authenticity
import RushSocket.Adapter.Redis.Discovery
import RushSocket.Transition.Family
import RushSocket.Webhook.Receiver
import RushSocket.Webhook.Manager
import RushSocket.Webhook.Closing
import RushSocket.Server.Serial.Roster
import RushSocket.Server.Serial.Latest
