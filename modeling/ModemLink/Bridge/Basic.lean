/-
Module: ModemLink.Bridge.Basic
Purpose: The state of a bridge, its journal, and the small steps all handlers are made of.
Main exports: Event, Bridge, Bridge.new, emit, acquireLock, releaseLock, finish, withDetector
-/
import ModemLink.Channel
import ModemLink.Diagnostics
import ModemLink.PendingTable
import ModemLink.VersionTable
import ModemLink.WakeLock

namespace ModemLink

/-!
A bridge is plain data.  Its handlers are functions from a bridge to a bridge, and what they do to
the world around it (taking locks, handing frames to the channel, running callbacks, telling
listeners, sampling metrics) is written into its journal in the order in which it happens.

Within a batch, work is done in a fixed order: due timers, then what the modem sent, then new
requests, then control.
-/

/-- What a bridge can be asked to do. -/
inductive Event where
  | submit (submission : Submission)
  | answer (header : AnswerHeader) (payload : Payload)
  | requestAck (serial : Serial)
  | indication (indication : Indication)
  | channelLost
  | channelRestarted
  | listenIndications (listener : ListenerId)
  | listenStatus (listener : ListenerId)
  | shutdown
deriving DecidableEq

/-- A bridge over a channel of type `χ`. -/
structure Bridge (χ : Type) where
  /-- Name in metrics and diagnostics. -/
  name : String
  /-- How long an attempt waits for an answer. -/
  maxAge : Span
  serials : SerialSource
  pending : PendingTable
  locks : WakeLocks
  versions : VersionTable
  detector : FaultDetector
  channel : χ
  /-- The live timer of the primary lock: there is one while the lock is held. -/
  primaryTimer : Option LockTimer
  /-- The live timer of the ack lock. -/
  ackTimer : Option LockTimer
  indicationListeners : List ListenerId
  statusListeners : List ListenerId
  totals : Totals
  running : Bool
  /-- The attempt that was issued under a serial at which another one still waited, if that ever
  happened.  It is the end of the bridge. -/
  collision : Option Attempt
  /-- What was done to the world around the bridge, newest first. -/
  journal : List Effect

namespace Bridge

variable {χ : Type}

/-- A bridge that has done nothing yet. -/
def new (config : BridgeConfig) (serials : SerialSource) (channel : χ) : Bridge χ where
  name := config.name
  maxAge := config.requestMaxAge
  serials := serials
  pending := .empty
  locks := .free config.wakeLockTimeout config.ackWakeLockTimeout
  versions := .new config.versionCap
  detector := .new config.detector
  channel := channel
  primaryTimer := none
  ackTimer := none
  indicationListeners := []
  statusListeners := []
  totals := {}
  running := true
  collision := none
  journal := []

/-! ## The journal -/

/-- Everything done so far, oldest first. -/
def history (bridge : Bridge χ) : List Effect :=
  bridge.journal.reverse

/-- Start the journal anew, once what it held has been read. -/
def clearHistory (bridge : Bridge χ) : Bridge χ :=
  { bridge with journal := [] }

/-- Change the channel and nothing else. -/
def onChannel (bridge : Bridge χ) (change : χ → χ) : Bridge χ :=
  { bridge with channel := change bridge.channel }

/-- Note what is done next. -/
def emit (bridge : Bridge χ) (effects : List Effect) : Bridge χ :=
  { bridge with journal := effects.reverse ++ bridge.journal }

/-- Note one sample. -/
def measure (bridge : Bridge χ) (measurement : Measurement) : Bridge χ :=
  bridge.emit [.measured measurement]

@[simp] theorem history_emit (bridge : Bridge χ) (effects : List Effect) :
    (bridge.emit effects).history = bridge.history ++ effects := by
  simp [history, emit]

/-! ## Wake locks -/

/-- Make a timer the live one of its lock. -/
def schedule (bridge : Bridge χ) (timer : LockTimer) : Bridge χ :=
  match timer.lock with
  | .primary => { bridge with primaryTimer := some timer }
  | .ack => { bridge with ackTimer := some timer }

/-- Take a reference to the primary lock. -/
def acquireLock (bridge : Bridge χ) (now : Instant) : Bridge χ :=
  match bridge.locks.acquire now with
  | (some timer, locks, effects) => ({ bridge with locks := locks }.emit effects).schedule timer
  | (none, locks, effects) => { bridge with locks := locks }.emit effects

@[simp] theorem versions_acquireLock (bridge : Bridge χ) (now : Instant) :
    (bridge.acquireLock now).versions = bridge.versions := by
  unfold acquireLock
  split
  · unfold schedule
    split <;> rfl
  · rfl

/-- Drop a reference to the primary lock.  With the last one its timer ends. -/
def releaseLock (bridge : Bridge χ) (now : Instant) : Bridge χ :=
  match bridge.locks.release now with
  | (locks, effects) =>
    { bridge with
      locks := locks
      primaryTimer := if locks.primary.isHeld then bridge.primaryTimer else none }.emit effects

/-- Drop the reference that an attempt owned, if it owned one. -/
def releaseIf (bridge : Bridge χ) (held : Bool) (now : Instant) : Bridge χ :=
  if held then bridge.releaseLock now else bridge

/-! ## Outcomes -/

/-- Count an outcome and the time it took. -/
def recordOutcome (bridge : Bridge χ) (kind : RequestKind) (outcome : Outcome) (latency : Span) :
    Bridge χ :=
  { bridge with totals := bridge.totals.record outcome.outcomeClass }.emit
    [.measured (.completed kind outcome.outcomeClass), .measured (.latency kind latency)]

/-- The end of an attempt that is no longer in the table: its caller is told the outcome. -/
def finish (bridge : Bridge χ) (attempt : Attempt) (outcome : Outcome) (now : Instant) : Bridge χ :=
  (((bridge.releaseIf attempt.holdsLock now).recordOutcome attempt.kind outcome
    (attempt.latency now)).emit [.settled attempt.ticket outcome])

/-- The same kind of failure for several attempts, one after the other. -/
def finishAll (bridge : Bridge χ) (attempts : List Attempt) (failure : RequestKind → Failure)
    (now : Instant) : Bridge χ :=
  attempts.foldl
    (fun bridge attempt => bridge.finish attempt (.failed (failure attempt.kind)) now) bridge

/-! ## Faults -/

/-- Tell every listener about a change of the fault status. -/
def publishStatus (bridge : Bridge χ) (change : Option FaultStatus) : Bridge χ :=
  match change with
  | none => bridge
  | some status =>
    bridge.emit (.measured (.statusChanged status) ::
      bridge.statusListeners.map fun listener => .statusTold listener status)

/-- Move to another state of the fault detector and publish the change. -/
def withDetector (bridge : Bridge χ) (step : Option FaultStatus × FaultDetector) : Bridge χ :=
  { bridge with detector := step.2 }.publishStatus step.1

end Bridge

end ModemLink
