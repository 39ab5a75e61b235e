/-
Module: ModemLink.Modem.Worker
Purpose: A simulated modem at work: requests in, answers out after a while.
Main exports: ModemLine, ModemCommand, ModemStats, ScheduledAnswer, ModemWorker
-/
import ModemLink.Bridge.Basic
import ModemLink.Modem.Profile

namespace ModemLink

/-- What a modem is told to do. -/
inductive ModemCommand where
  | request (request : Outbound)
  | indicate (indication : Indication)
  /-- Forget every answer that is not out yet. -/
  | crash
deriving DecidableEq

/-! ## The line -/

/-- The line to a simulated modem.  While the modem is down nothing goes through. -/
structure ModemLine where
  name : String
  down : Bool
  /-- What the modem has not looked at yet, first in first out. -/
  commands : List ModemCommand
  /-- Acknowledgements that went through. -/
  acks : Nat
deriving DecidableEq

namespace ModemLine

def new (name : String) : ModemLine :=
  ⟨name, false, [], 0⟩

/-- Why nothing goes through. -/
def downReason (line : ModemLine) : String :=
  s!"modem {line.name} is down"

def push (line : ModemLine) (command : ModemCommand) : ModemLine :=
  { line with commands := line.commands ++ [command] }

def send (line : ModemLine) (request : Outbound) : SendReply × ModemLine :=
  if line.down then (.unavailable line.downReason, line)
  else (.accepted, line.push (.request request))

def sendAck (line : ModemLine) : Option String × ModemLine :=
  if line.down then (some line.downReason, line)
  else (none, { line with acks := line.acks + 1 })

instance : Channel ModemLine := ⟨send, sendAck⟩

end ModemLine

/-! ## The modem -/

/-- What a modem saw and did. -/
structure ModemStats where
  requests : Nat := 0
  /-- Requests answered by "not supported". -/
  refusedVersions : Nat := 0
  /-- Requests that get no answer. -/
  ignored : Nat := 0
  responses : Nat := 0
  requestAcks : Nat := 0
  acksReceived : Nat := 0
  indications : Nat := 0
  /-- Answers that were lost in a crash. -/
  droppedByCrash : Nat := 0
  perKind : RequestKind.Table Nat := .const 0
deriving DecidableEq, Repr

/-- An answer on its way. -/
structure ScheduledAnswer where
  due : Instant
  header : AnswerHeader
  payload : Payload
deriving DecidableEq

/-- A modem, with its answers in the order in which they are due. -/
structure ModemWorker where
  profile : ModemProfile
  queue : List ScheduledAnswer
  stats : ModemStats

namespace ModemWorker

def new (profile : ModemProfile) : ModemWorker :=
  ⟨profile, [], {}⟩

/-- Put an answer behind those that are due no later. -/
def insert (answer : ScheduledAnswer) : List ScheduledAnswer → List ScheduledAnswer
  | [] => [answer]
  | first :: rest =>
    if first.due ≤ answer.due then first :: insert answer rest else answer :: first :: rest

/-- Whether chance has a say in what becomes of a request. -/
def answers (worker : ModemWorker) (request : Outbound) : Bool :=
  worker.profile.react request.kind request.version ≠ .ignore

/-- Count a request. -/
def count (worker : ModemWorker) (kind : RequestKind) : ModemWorker :=
  let stats := worker.stats
  { worker with
    stats := { stats with
      requests := stats.requests + 1
      perKind := stats.perKind.set kind (stats.perKind.get kind + 1) } }

/-- Say that a request arrived, if the modem does that. -/
def acknowledge (worker : ModemWorker) (serial : Serial) : List Event × ModemWorker :=
  if worker.profile.requestAcks then
    ([.requestAck serial],
      { worker with stats := { worker.stats with requestAcks := worker.stats.requestAcks + 1 } })
  else ([], worker)

/-- Schedule an answer.  A success brings the payload of the request back. -/
def schedule (worker : ModemWorker) (request : Outbound) (code : AnswerCode) (roll : Roll)
    (now : Instant) : ModemWorker :=
  let header := AnswerHeader.plain request.serial request.kind code
  let answer : ScheduledAnswer :=
    { due := now + roll.latency
      header := if roll.ackExpected then header.withAckExpected else header
      payload := if code.isSuccess then request.payload else ByteArray.empty }
  let stats := worker.stats
  { worker with
    queue := insert answer worker.queue
    stats := { stats with
      refusedVersions := stats.refusedVersions + if code.isNotSupported then 1 else 0 } }

/-- React to a request. -/
def onRequest (worker : ModemWorker) (request : Outbound) (roll : Roll) (now : Instant) :
    List Event × ModemWorker :=
  let (events, worker) := (worker.count request.kind).acknowledge request.serial
  match worker.profile.react request.kind request.version with
  | .ignore =>
    (events, { worker with stats := { worker.stats with ignored := worker.stats.ignored + 1 } })
  | .respond code => (events, worker.schedule request code roll now)

/-- Pass an indication on to the bridge. -/
def onIndicate (worker : ModemWorker) (indication : Indication) : List Event × ModemWorker :=
  ([.indication indication],
    { worker with stats := { worker.stats with indications := worker.stats.indications + 1 } })

/-- Forget every answer that is not out yet. -/
def crash (worker : ModemWorker) : ModemWorker :=
  { worker with
    queue := []
    stats := { worker.stats with
      droppedByCrash := worker.stats.droppedByCrash + worker.queue.length } }

/-- Send the answers that are due. -/
def deliverDue (worker : ModemWorker) (now : Instant) : List Event × ModemWorker :=
  let due := worker.queue.takeWhile (·.due ≤ now)
  (due.map fun answer => .answer answer.header answer.payload,
    { worker with
      queue := worker.queue.dropWhile (·.due ≤ now)
      stats := { worker.stats with responses := worker.stats.responses + due.length } })

end ModemWorker

end ModemLink
