/-
Module: ModemLink.EventLoop
Purpose: The queue in front of a bridge, and the loop that empties it in batches.
Main exports: EventLoop, EventLoop.start, push, submit, turn, BridgeError
-/
import ModemLink.Bridge.Batch

namespace ModemLink

/-!
Callers and the modem's side push events into one queue, first in first out.  The loop takes a part
from its front as a batch and lets the bridge handle it, until a batch stops the bridge.  What is
queued then is dropped, and the submissions in it fail.

A callback is a caller's code, and may panic.  That takes the loop down in the middle of a batch:
what the bridge did up to that callback stands, and every request without an outcome fails.  The same
happens when two attempts collide under one serial.
-/

/-- Why a call on a loop failed. -/
inductive BridgeError where
  | loopStopped
  | config (error : ConfigError)
  | panicked
deriving DecidableEq, Repr

/-- The error in words. -/
def BridgeError.message : BridgeError → String
  | loopStopped => "bridge event loop has stopped"
  | config error => error.message
  | panicked => "event loop thread panicked"

/-- How a loop is doing. -/
inductive LoopStatus where
  | running
  | stopped
  /-- A callback panicked, or serials collided. -/
  | crashed
deriving DecidableEq, Repr

/-- A bridge behind a queue. -/
structure EventLoop (χ : Type) where
  bridge : Bridge χ
  /-- What waits to be handled, first in first out. -/
  queue : List Event
  status : LoopStatus
  /-- The bridge as it was after the last batch. -/
  published : Diagnostics

namespace EventLoop

variable {χ : Type}

/-- The longest batch: the event that wakes the loop and 256 more. -/
def batchLimit : Nat := 257

/-- A loop over a new bridge.  The settings have to make sense. -/
def start (config : BridgeConfig) (serials : SerialSource) (channel : χ) (now : Instant) :
    Except BridgeError (EventLoop χ) :=
  match config.validate with
  | .error fault => .error (.config fault.toError)
  | .ok () =>
    let bridge := Bridge.new config serials channel
    .ok ⟨bridge, [], .running, bridge.diagnostics now⟩

/-- Whether the loop still takes events. -/
def isRunning (loop : EventLoop χ) : Bool :=
  loop.status = .running

/-- Queue an event.  A loop that no longer runs does not take it. -/
def push (loop : EventLoop χ) (event : Event) : Except BridgeError (EventLoop χ) :=
  if loop.isRunning then .ok { loop with queue := loop.queue ++ [event] }
  else .error .loopStopped

/-- A submission as it fails when nobody is left to handle it. -/
def unheard (submission : Submission) : Effect :=
  .settled submission.ticket (.failed (.channelUnavailable submission.kind))

/-- Queue a request under a new serial.  If the loop no longer runs the request fails at once. -/
def submit (loop : EventLoop χ) (kind : RequestKind) (payload : Payload) (origin : Origin)
    (ticket : Ticket) (now : Instant) : Except BridgeError Serial × EventLoop χ :=
  match loop.bridge.serials.take with
  | (serial, serials) =>
    let loop := { loop with bridge := { loop.bridge with serials := serials } }
    let submission : Submission := ⟨serial, kind, payload, origin, now, ticket⟩
    match loop.push (.submit submission) with
    | .ok loop => (.ok serial, loop)
    | .error error => (.error error, { loop with bridge := loop.bridge.emit [unheard submission] })

/-- The submissions among some events. -/
def submissions (events : List Event) : List Submission :=
  events.filterMap fun
    | .submit submission => some submission
    | _ => none

/-- The effects up to the first callback that panics, and whether there is one. -/
def untilPanic (panics : Ticket → Bool) : List Effect → List Effect × Bool
  | [] => ([], false)
  | effect :: rest =>
    if (effect.outcome?.map fun settled => panics settled.1).getD false then ([effect], true)
    else
      let (before, panicked) := untilPanic panics rest
      (effect :: before, panicked)

/-- The requests that wait in the bridge or in some events and have no outcome in `settled`, as
effects of failing them. -/
def abandon (bridge : Bridge χ) (events : List Event) (settled : List Effect) : List Effect :=
  let tickets := settled.filterMap Effect.outcome? |>.map Prod.fst
  let waiting := bridge.unsettled.map (fun attempt => (attempt.ticket, attempt.kind))
    ++ (submissions events).map (fun submission => (submission.ticket, submission.kind))
  waiting.filter (fun request => !tickets.contains request.1)
    |>.map fun request => .settled request.1 (.failed (.channelUnavailable request.2))

variable [Channel χ]

/-- Handle the first `count` queued events as one batch.  `panics` tells which callbacks panic. -/
def turn (loop : EventLoop χ) (panics : Ticket → Bool) (count : Nat) (now : Instant) :
    EventLoop χ :=
  let batch := loop.queue.take count
  let rest := loop.queue.drop count
  let bridge := loop.bridge.handleBatch batch now
  let bridge := if bridge.running then bridge else bridge.shutdown now
  let done := bridge.history.drop loop.bridge.history.length
  let (before, panicked) := untilPanic panics done
  if panicked || bridge.collision.isSome then
    { loop with
      bridge := loop.bridge.emit (before ++ abandon loop.bridge (batch ++ rest) before)
      queue := []
      status := .crashed }
  else if bridge.running then
    { loop with bridge := bridge, queue := rest, published := bridge.diagnostics now }
  else
    { loop with
      bridge := bridge.emit ((submissions rest).map unheard)
      queue := []
      status := .stopped
      published := bridge.diagnostics now }

end EventLoop

end ModemLink
