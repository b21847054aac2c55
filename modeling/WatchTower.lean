import WatchTower.Arithmetic.Binary64
import WatchTower.Assistant.Chat
import WatchTower.Assistant.ChatClient
import WatchTower.Auth.Binding
import WatchTower.Auth.GoogleAuth
import WatchTower.Auth.GoogleButton
import WatchTower.Auth.Linking
import WatchTower.Auth.Passwords
import WatchTower.Auth.Requests
import WatchTower.Auth.ResetLinks
import WatchTower.Auth.Sessions
import WatchTower.Auth.User
import WatchTower.Auth.UserController
import WatchTower.Auth.Verification
import WatchTower.Dashboard.Realtime
import WatchTower.Dashboard.TabStore
import WatchTower.Dependencies.AuditGate
import WatchTower.Documents.Aggregate
import WatchTower.Documents.Collection
import WatchTower.Documents.Expiry
import WatchTower.Documents.Indexed
import WatchTower.Documents.Limited
import WatchTower.Documents.Patch
import WatchTower.Documents.Query
import WatchTower.Documents.Unique
import WatchTower.Documents.Upsert
import WatchTower.Encoding.Base64
import WatchTower.Encoding.Json
import WatchTower.Encoding.Markup
import WatchTower.Encoding.Percent
import WatchTower.Encoding.Unicode
import WatchTower.Hysteresis.Machine
import WatchTower.Lease.Register
import WatchTower.Monitors.Crypto
import WatchTower.Monitors.Endpoints
import WatchTower.Monitors.HasAuthHeaders
import WatchTower.Monitors.OwnerEdits
import WatchTower.Monitors.StoredCredentials
import WatchTower.Monitors.UniqueUrls
import WatchTower.Monitors.WritableFields
import WatchTower.Notifications.Channels
import WatchTower.Notifications.Delivery
import WatchTower.Notifications.DispatchContract
import WatchTower.Notifications.Notifier
import WatchTower.Notifications.Templates
import WatchTower.Observability.Counters
import WatchTower.Observability.Readiness
import WatchTower.Pages.OwnedMonitors
import WatchTower.Pages.PageCap
import WatchTower.Pages.PublicPage
import WatchTower.Pages.Publishing
import WatchTower.Pages.Reported
import WatchTower.Pages.Retention
import WatchTower.Pages.Series
import WatchTower.Pages.Site
import WatchTower.Pages.Slug
import WatchTower.Pages.StatusPageController
import WatchTower.Pages.Uptime
import WatchTower.Pages.UptimeAggregation
import WatchTower.Probe.Callbacks
import WatchTower.Probe.CheckMonitor
import WatchTower.Probe.Credentials
import WatchTower.Probe.HopIsolation
import WatchTower.Probe.Machine
import WatchTower.Probe.Node
import WatchTower.Probe.PhaseTimings
import WatchTower.Probe.RedirectChain
import WatchTower.Probe.Redirects
import WatchTower.Probe.Result
import WatchTower.Probe.RetryLadder
import WatchTower.Probe.Teardown
import WatchTower.Probe.TimedCheck
import WatchTower.Probe.Totality
import WatchTower.Runtime.Js
import WatchTower.Runtime.Text
import WatchTower.Scheduler.Batch
import WatchTower.Scheduler.BreakerRuns
import WatchTower.Scheduler.Cadence
import WatchTower.Scheduler.CheckDeadline
import WatchTower.Scheduler.CircuitBreaker
import WatchTower.Scheduler.ClockJumps
import WatchTower.Scheduler.Config
import WatchTower.Scheduler.Deletion
import WatchTower.Scheduler.Escalation
import WatchTower.Scheduler.FailoverOverlap
import WatchTower.Scheduler.Faults
import WatchTower.Scheduler.FlapDetection
import WatchTower.Scheduler.Incident
import WatchTower.Scheduler.IncidentCalls
import WatchTower.Scheduler.IncidentDuration
import WatchTower.Scheduler.IncidentLinearity
import WatchTower.Scheduler.IncidentRegister
import WatchTower.Scheduler.Interrupted
import WatchTower.Scheduler.Lag
import WatchTower.Scheduler.Leader
import WatchTower.Scheduler.Lock
import WatchTower.Scheduler.Monitor
import WatchTower.Scheduler.Orphans
import WatchTower.Scheduler.OverlapGuard
import WatchTower.Scheduler.RetryBudget
import WatchTower.Scheduler.RunCheck
import WatchTower.Scheduler.RunPool
import WatchTower.Scheduler.Shutdown
import WatchTower.Scheduler.ShutdownOrder
import WatchTower.Scheduler.Store
import WatchTower.Scheduler.Tick
import WatchTower.Scheduler.WallClock
import WatchTower.Sockets.Handshake
import WatchTower.Sockets.Rooms
import WatchTower.Tenancy.Isolation
import WatchTower.Tenancy.ScopedDao
import WatchTower.Transition.Beside
import WatchTower.Transition.Emitting
import WatchTower.Transition.Gather
import WatchTower.Transition.Interleave
import WatchTower.Transition.Metered
import WatchTower.Transition.Program
import WatchTower.Transition.Purge
import WatchTower.Transition.Run
