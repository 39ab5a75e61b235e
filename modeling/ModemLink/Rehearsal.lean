/-
Module: ModemLink.Rehearsal
Purpose: Playing a scenario: a script, a bridge's loop and a simulated modem, in virtual time.
Main exports: Move, Rehearsal, Rehearsal.apply, Rehearsal.nextMove?, Scenario.rehearse
-/
import ModemLink.Report
import ModemLink.Scenario

namespace ModemLink

/-!
Three parties work at the same time: the script hands in requests, the loop of the bridge takes
events from its queue, and the modem takes commands from its line.  What any of them does next is a
`Move`; the moves can come in any order.  A scenario is played with the moves in one order: whatever
can be done at an instant is done before time goes on, and time goes on to where the next thing is
due.
-/

/-- One thing that one party does, or the passing of time. -/
inductive Move where
  /-- The loop takes a batch of at most so many events. -/
  | turn (count : Nat)
  /-- The modem takes its next command. -/
  | command
  /-- The modem sends the answers that are due. -/
  | deliver
  /-- Time passes. -/
  | tick (span : Span)
deriving DecidableEq, Repr

/-- A scenario while it is played. -/
structure Rehearsal where
  loop : EventLoop ModemLine
  worker : ModemWorker
  random : Random
  ledger : Ledger
  /-- On whose behalf the requests are made. -/
  origin : Origin
  now : Instant

namespace Rehearsal

/-! ## Small steps -/

/-- Enter what the bridge did into the ledger. -/
def absorb (r : Rehearsal) : Rehearsal :=
  let bridge := r.loop.bridge
  { r with
    ledger := bridge.history.foldl Ledger.note r.ledger
    loop := { r.loop with bridge := bridge.clearHistory } }

/-- Queue events for the bridge.  A loop that no longer runs does not take them. -/
def push (r : Rehearsal) (events : List Event) : Rehearsal :=
  { r with loop := events.foldl (fun loop event => (loop.push event).toOption.getD loop) r.loop }

/-- Change the line to the modem. -/
def onLine (r : Rehearsal) (change : ModemLine → ModemLine) : Rehearsal :=
  { r with loop := { r.loop with bridge := r.loop.bridge.onChannel change } }

/-- What the modem has not looked at yet. -/
def commands (r : Rehearsal) : List ModemCommand :=
  r.loop.bridge.channel.commands

/-- The loop takes a batch. -/
def turn (r : Rehearsal) (count : Nat) : Rehearsal :=
  if r.loop.isRunning then
    absorb { r with loop := r.loop.turn (fun _ => false) count r.now }
  else r

/-- The modem takes its next command.  Chance is drawn on only where it has a say. -/
def command (r : Rehearsal) : Rehearsal :=
  match r.commands with
  | [] => r
  | command :: rest =>
    let r := r.onLine fun line => { line with commands := rest }
    match command with
    | .request request =>
      let (roll, random) :=
        if r.worker.answers request then r.worker.profile.roll r.random
        else (⟨false, 0⟩, r.random)
      let (events, worker) := r.worker.onRequest request roll r.now
      { r with worker := worker, random := random }.push events
    | .indicate indication =>
      let (events, worker) := r.worker.onIndicate indication
      { r with worker := worker }.push events
    | .crash => { r with worker := r.worker.crash }

/-- The modem sends the answers that are due. -/
def deliver (r : Rehearsal) : Rehearsal :=
  let (events, worker) := r.worker.deliverDue r.now
  { r with worker := worker }.push events

/-- Make a move. -/
def apply (r : Rehearsal) : Move → Rehearsal
  | .turn count => r.turn count
  | .command => r.command
  | .deliver => r.deliver
  | .tick span => { r with now := r.now + span }

/-! ## The order of the moves -/

/-- When the loop next wakes of itself: just after its deadline. -/
def wakeTime? (r : Rehearsal) : Option Instant :=
  if r.loop.isRunning then r.loop.bridge.nextDeadline?.map (· + 1) else none

/-- When the modem next sends an answer. -/
def answerTime? (r : Rehearsal) : Option Instant :=
  r.worker.queue.head?.map (·.due)

/-- What can be done at this instant. -/
def nextMove? (r : Rehearsal) : Option Move :=
  if r.loop.isRunning ∧ r.loop.queue ≠ [] then some (.turn EventLoop.batchLimit)
  else if r.commands ≠ [] then some .command
  else if r.answerTime?.any (· ≤ r.now) then some .deliver
  else if r.wakeTime?.any (· ≤ r.now) then some (.turn 0)
  else none

/-- When there is something to be done next. -/
def nextTime? (r : Rehearsal) : Option Instant :=
  match r.answerTime?, r.wakeTime? with
  | some a, some b => some (min a b)
  | a, b => a <|> b

/-- Do what can be done at this instant. -/
def rest (r : Rehearsal) : Nat → Rehearsal
  | 0 => r
  | fuel + 1 =>
    match r.nextMove? with
    | some move => (r.apply move).rest fuel
    | none => r

/-- Let time pass up to an instant, or until something is reached. -/
def pass (r : Rehearsal) (limit : Instant) (reached : Rehearsal → Bool) : Nat → Rehearsal
  | 0 => r
  | fuel + 1 =>
    if reached r then r
    else
      match r.nextMove? with
      | some move => (r.apply move).pass limit reached fuel
      | none =>
        match r.nextTime? with
        | some time =>
          if time ≤ limit then (r.apply (.tick (time - r.now))).pass limit reached fuel
          else r.apply (.tick (limit - r.now))
        | none => r.apply (.tick (limit - r.now))

/-! ## The script -/

/-- Hand in a request. -/
def submit (r : Rehearsal) (kind : RequestKind) (payload : Payload) :
    Except SimulationError Rehearsal :=
  let ticket := r.ledger.nextTicket
  let (result, loop) := r.loop.submit kind payload r.origin ticket r.now
  match result with
  | .ok _ => .ok { r with loop := loop, ledger := r.ledger.submitted kind }
  | .error error => .error (.bridge error)

/-- Hand in some requests, doing what can be done after each. -/
def submitMany (r : Rehearsal) (kind : RequestKind) (payload : Payload) (fuel : Nat) :
    Nat → Except SimulationError Rehearsal
  | 0 => .ok r
  | n + 1 =>
    match r.submit kind payload with
    | .ok r => (r.rest fuel).submitMany kind payload fuel n
    | .error error => .error error

/-- Queue an event that the script itself sends. -/
def tell (r : Rehearsal) (event : Event) : Except SimulationError Rehearsal :=
  match r.loop.push event with
  | .ok loop => .ok { r with loop := loop }
  | .error error => .error (.bridge error)

/-- Whether every request has an outcome. -/
def isSettled (r : Rehearsal) : Bool :=
  r.ledger.outstanding = 0

/-- Play one action of the script. -/
def play (r : Rehearsal) (settleTimeout : Span) (fuel : Nat) (step : Step) :
    Except SimulationError Rehearsal :=
  match step with
  | .submit kind count payload => r.submitMany kind payload.toUTF8 fuel count.toNat
  | .wait ms => .ok (r.pass (r.now + Span.ofMillis ms.toNat) (fun _ => false) fuel)
  | .settle => .ok (r.pass (r.now + settleTimeout) isSettled fuel)
  | .indicate code ackExpected =>
    let indication : Indication := ⟨code, ByteArray.empty, .ofAck ackExpected⟩
    .ok ((r.onLine (·.push (.indicate indication))).rest fuel)
  | .channelLost =>
    let r := r.onLine fun line => { line with down := true }.push .crash
    (r.tell .channelLost).map (·.rest fuel)
  | .channelRestart =>
    let r := r.onLine fun line => { line with down := false }
    (r.tell .channelRestarted).map (·.rest fuel)

/-- A scenario before its first action, with a listener for indications and one for the fault
status. -/
def start (scenario : Scenario) (seed : UInt64) (firstSerial : UInt32) :
    Except SimulationError Rehearsal :=
  let serials := SerialSource.start (scenario.bridge.serialSeed.getD firstSerial)
  match EventLoop.start scenario.bridge serials (ModemLine.new scenario.bridge.name) 0 with
  | .error error => .error (.bridge error)
  | .ok loop =>
    let r : Rehearsal :=
      { loop := loop
        worker := .new scenario.modem
        random := .ofSeed seed
        ledger := {}
        origin := ⟨some scenario.name⟩
        now := 0 }
    .ok (r.push [.listenStatus 0, .listenIndications 0])

/-- Shut the bridge down.  There are moves enough for the loop to come to the end of its queue. -/
def finish (r : Rehearsal) (fuel : Nat) : Except SimulationError Rehearsal :=
  match r.tell .shutdown with
  | .error error => .error error
  | .ok r =>
    let r := r.rest (fuel + r.loop.queue.length)
    if r.loop.status = .crashed then .error (.bridge .panicked) else .ok r

/-- What came of it. -/
def report (r : Rehearsal) (scenario : Scenario) (seed : UInt64) (startedAt : Timestamp)
    (settled : Bool) : Report where
  scenario := scenario.name
  seed := seed
  startedAt := startedAt
  durationMs := Span.toMillis r.now
  settled := settled
  outcomes := r.ledger.outcomes
  statusChanges := r.ledger.statusChanges.reverse
  indications := r.ledger.indications
  locks := r.ledger.locks
  modem := { r.worker.stats with acksReceived := r.loop.bridge.channel.acks }
  diagnostics := r.loop.published

end Rehearsal

namespace Scenario

/-- More moves than a scenario can take: each request is sent at most once per rung of a ladder, and
each sending leads to few moves. -/
def moveBound (scenario : Scenario) : Nat :=
  200 * (scenario.requestCount + scenario.steps.length + 10)

/-- Play a scenario.  A seed given here goes before the scenario's own; the serials begin with
`firstSerial` unless the settings say where. -/
def rehearse (scenario : Scenario) (seed : Option UInt64) (firstSerial : UInt32)
    (startedAt : Timestamp) : Except SimulationError Report := do
  scenario.validate
  let seed := (seed <|> scenario.seed).getD 0
  let fuel := scenario.moveBound
  let settleTimeout := Span.ofMillis scenario.settleTimeoutMs.toNat
  let r ← Rehearsal.start scenario seed firstSerial
  let r ← scenario.steps.foldlM (fun r step => r.play settleTimeout fuel step) (r.rest fuel)
  let r ← r.play settleTimeout fuel .settle
  let settled := r.isSettled
  let r ← r.finish fuel
  return r.report scenario seed startedAt settled

end Scenario

end ModemLink
