/-
Module: ModemLink.Bridge.Batch
Purpose: Batches of events, and views of a bridge.
Main exports: Phase, Event.phase, Event.inPhaseOrder, handle, handleBatch, diagnostics, unsettled
-/
import ModemLink.Bridge.Handlers
import ModemLink.Bridge.Timers

namespace ModemLink

/-- The phases of a batch, in order. -/
inductive Phase where
  | inbound
  | submission
  | control
deriving DecidableEq, Repr

/-- The phase in which an event is handled. -/
def Event.phase : Event → Phase
  | answer _ _ | requestAck _ | indication _ | channelLost => .inbound
  | submit _ => .submission
  | channelRestarted | listenIndications _ | listenStatus _ | shutdown => .control

/-- Events in the order in which a batch handles them. -/
def Event.inPhaseOrder (events : List Event) : List Event :=
  events.filter (·.phase = .inbound) ++ events.filter (·.phase = .submission)
    ++ events.filter (·.phase = .control)

namespace Bridge

variable {χ : Type}

section

variable [Channel χ]

/-- What a sound bridge does with one event. -/
def react (bridge : Bridge χ) (now : Instant) : Event → Bridge χ
  | .submit submission => bridge.submit submission now
  | .answer header payload => bridge.onAnswer header payload now
  | .requestAck serial => bridge.onRequestAck serial
  | .indication indication => bridge.onIndication indication now
  | .channelLost => bridge.onChannelLost now
  | .channelRestarted => bridge.onChannelRestarted
  | .listenIndications listener => bridge.listenIndications listener
  | .listenStatus listener => bridge.listenStatus listener
  | .shutdown => bridge.shutdown now

/-- Handle one event, unless serials have collided. -/
def handle (bridge : Bridge χ) (now : Instant) (event : Event) : Bridge χ :=
  if bridge.collision.isSome then bridge else bridge.react now event

/-- Handle a batch: fire what is due, handle the events phase by phase, and sample the number of
attempts that wait. -/
def handleBatch (bridge : Bridge χ) (events : List Event) (now : Instant) : Bridge χ :=
  let bridge := (Event.inPhaseOrder events).foldl (fun bridge event => bridge.handle now event)
    (bridge.fireDueTimers now)
  bridge.measure (.pendingCount bridge.pending.size)

end

/-! ## Views -/

/-- The bridge as it shows itself to an operator. -/
def diagnostics (bridge : Bridge χ) (now : Instant) : Diagnostics where
  instanceName := bridge.name
  pending := bridge.pending.size
  oldestPendingAge := bridge.pending.oldest?.map now.since
  primaryHeld := bridge.locks.primary.isHeld
  primaryReferences := bridge.locks.primary.count
  primaryHeldFor := bridge.locks.primaryHeldFor now
  ackHeld := bridge.locks.ack.isHeld
  versionCap := bridge.versions.cap
  versions := bridge.versions.toList
  faults := bridge.detector.snapshot
  totals := bridge.totals

/-- The attempts without an outcome: those in the table and, after a collision, the one that found
its serial taken. -/
def unsettled (bridge : Bridge χ) : List Attempt :=
  bridge.pending.bySerial ++ bridge.collision.toList

/-- The outcome an attempt has when it is dropped. -/
def dropped (attempt : Attempt) : Ticket × Outcome :=
  (attempt.ticket, .failed (.channelUnavailable attempt.kind))

/-- What callers hear in the end when an attempt found its serial taken: the outcomes delivered so
far, then failures of the attempt that had the serial, of the new submissions that were not reached,
and of all other attempts. -/
def lost (bridge : Bridge χ) (attempt : Attempt) (new : List Submission) :
    List (Ticket × Outcome) :=
  let settled := bridge.history.filterMap Effect.outcome?
  let displaced := (bridge.pending.find? attempt.serial).toList
  let reached := settled.map Prod.fst ++ bridge.unsettled.map Attempt.ticket
  let unheard := new.filter fun submission => !reached.contains submission.ticket
  settled ++ displaced.map dropped
    ++ unheard.map (fun submission =>
      (submission.ticket, .failed (.channelUnavailable submission.kind)))
    ++ (bridge.unsettled.filter (!displaced.contains ·)).map dropped

end Bridge

end ModemLink
