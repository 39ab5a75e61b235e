import ModemLink.AnswerCode
import ModemLink.Attempt
import ModemLink.Bridge.Basic
import ModemLink.Bridge.Batch
import ModemLink.Bridge.Handlers
import ModemLink.Bridge.Requests
import ModemLink.Bridge.Timers
import ModemLink.Calendar
import ModemLink.Channel
import ModemLink.Clock
import ModemLink.CommandLine
import ModemLink.Config
import ModemLink.Config.File
import ModemLink.Data
import ModemLink.Diagnostics
import ModemLink.EventLoop
import ModemLink.FaultDetector
import ModemLink.Frame
import ModemLink.Journal
import ModemLink.Json
import ModemLink.Json.Encode
import ModemLink.Ladder
import ModemLink.Ledger
import ModemLink.Main
import ModemLink.Metric
import ModemLink.Modem.Profile
import ModemLink.Modem.Worker
import ModemLink.Outcome
import ModemLink.PendingTable
import ModemLink.Proofs.Frame
import ModemLink.Random
import ModemLink.Random.Normal
import ModemLink.Rehearsal
import ModemLink.Reply
import ModemLink.Report
import ModemLink.RequestKind
import ModemLink.RequestKind.Table
import ModemLink.Scenario
import ModemLink.Scenario.File
import ModemLink.Serial
import ModemLink.Text.Blank
import ModemLink.Text.Hex
import ModemLink.Text.Hidden
import ModemLink.Text.Number
import ModemLink.Text.Quoted
import ModemLink.Text.Shortest
import ModemLink.Version
import ModemLink.VersionTable
import ModemLink.WakeLock
import ModemLink.Yaml.Cursor
import ModemLink.Yaml.Fields
import ModemLink.Yaml.Node
import ModemLink.Yaml.Resolve
import ModemLink.Yaml.Scalar
import ModemLink.Yaml.Token
import ModemLink.Proofs.Issue
import ModemLink.Proofs.Handlers
import ModemLink.Proofs.Run
import ModemLink.Proofs.References
import ModemLink.Proofs.LockAccounting
import ModemLink.Proofs.Delivery
import ModemLink.Proofs.Provenance
import ModemLink.Proofs.Negotiation
import ModemLink.Proofs.Course
import ModemLink.Proofs.Ceiling
import ModemLink.Proofs.Rounds
import ModemLink.Proofs.Retries
import ModemLink.Proofs.Books
import ModemLink.Proofs.Meters
import ModemLink.Proofs.LockSteps
import ModemLink.Proofs.Deadlines
import ModemLink.Proofs.Expiry
import ModemLink.Proofs.Patience
import ModemLink.Proofs.Past
import ModemLink.Proofs.StaleAnswers
import ModemLink.Proofs.Nesting
import ModemLink.Proofs.Refusals
import ModemLink.Proofs.Calm
import ModemLink.Proofs.Flood
import ModemLink.Proofs.HoldBounds
import ModemLink.Proofs.OneByOne
import ModemLink.Proofs.Deeds
import ModemLink.Proofs.AnyOrder
import ModemLink.Proofs.Drawing
import ModemLink.Proofs.Register
import ModemLink.Proofs.Teardown
import ModemLink.Proofs.Wakeups
import ModemLink.Proofs.StatusHistory
import ModemLink.Proofs.Subscriptions
import ModemLink.Proofs.LockUsage
import ModemLink.Proofs.Performance
import ModemLink.Proofs.FrameScript
import ModemLink.Proofs.Accounts
import ModemLink.Proofs.Reckoning
import ModemLink.Proofs.Rows
import ModemLink.Proofs.Suspicion
import ModemLink.Proofs.FrameAcks
import ModemLink.Proofs.Honoured
import ModemLink.Proofs.Lowering
import ModemLink.Proofs.FailedSends
import ModemLink.Proofs.Handoff
import ModemLink.Proofs.Lineup
import ModemLink.Proofs.Sleep
import ModemLink.Proofs.Workday
import ModemLink.Proofs.AnswerQueue
import ModemLink.Proofs.Latency
import ModemLink.Proofs.Spelling
import ModemLink.Proofs.SharedSource
import ModemLink.Proofs.Counters
import ModemLink.Proofs.Sweeps
import ModemLink.Proofs.OrderedFront
import ModemLink.Proofs.Descent
