/-
Module: ModemLink.Bridge.Handlers
Purpose: What a bridge does with frames from the modem and with control.
Main exports:
  onAnswer, onRequestAck, onIndication, onChannelLost, onChannelRestarted, shutdown,
  listenIndications, listenStatus
-/
import ModemLink.Bridge.Requests

namespace ModemLink.Bridge

variable {χ : Type}

/-! ## Frames that may ask for an acknowledgement -/

section

variable [Channel χ]

/-- Send an acknowledgement, and hold the ack lock if the channel took it. -/
def sendAck (bridge : Bridge χ) (now : Instant) : Bridge χ :=
  match Channel.sendAck bridge.channel with
  | (some _, channel) => { bridge with channel := channel }.emit [.acknowledged false]
  | (none, channel) =>
    let bridge := { bridge with
      channel := channel
      totals := { bridge.totals with acksSent := bridge.totals.acksSent + 1 } }.emit
        [.acknowledged true, .measured .ackSent]
    match bridge.locks.holdForAck now with
    | (timer, locks, effects) => ({ bridge with locks := locks }.emit effects).schedule timer

/-- Send an acknowledgement if one is asked for. -/
def sendAckIf (bridge : Bridge χ) (asked : Bool) (now : Instant) : Bridge χ :=
  if asked then bridge.sendAck now else bridge

/-- The modem answers.  An answer to a serial that nothing waits under is only counted. -/
def onAnswer (bridge : Bridge χ) (header : AnswerHeader) (payload : Payload) (now : Instant) :
    Bridge χ :=
  match bridge.pending.find? header.serial with
  | none =>
    { bridge with
      totals := { bridge.totals with staleAnswers := bridge.totals.staleAnswers + 1 } }.measure
        .staleAnswer
  | some attempt =>
    let bridge := { bridge with pending := bridge.pending.erase header.serial }
    let bridge := bridge.sendAckIf header.type.ackExpected now
    let bridge := bridge.withDetector (bridge.detector.onAnswer attempt.kind header.code now)
    if header.code.isNotSupported then
      bridge.fallBack attempt attempt.version now
    else if header.code.isSuccess then
      bridge.finish attempt (.ok payload) now
    else
      bridge.finish attempt (.failed (.rejected attempt.kind header.code)) now

/-- The modem sends a message of its own: it is acknowledged if asked for, and every listener gets
it. -/
def onIndication (bridge : Bridge χ) (indication : Indication) (now : Instant) :
    Bridge χ :=
  let bridge := { bridge with
    totals := { bridge.totals with indications := bridge.totals.indications + 1 } }.measure
      .indicationReceived
  let bridge := bridge.sendAckIf indication.type.ackExpected now
  bridge.emit (bridge.indicationListeners.map fun listener => .indicated listener indication)

end

/-! ## Other news from the modem -/

/-- The modem says that a request reached it. -/
def onRequestAck (bridge : Bridge χ) (serial : Serial) : Bridge χ :=
  { bridge with pending := bridge.pending.acknowledge serial }

/-- Fail every attempt in the table: its answer cannot come any more. -/
def failAll (bridge : Bridge χ) (now : Instant) : Bridge χ :=
  match bridge.pending.drain with
  | (attempts, pending) =>
    { bridge with pending := pending }.finishAll attempts .channelUnavailable now

/-- The modem is out of reach. -/
def onChannelLost (bridge : Bridge χ) (now : Instant) : Bridge χ :=
  bridge.failAll now

/-! ## Control -/

/-- The modem restarted: the faults seen before are forgotten. -/
def onChannelRestarted (bridge : Bridge χ) : Bridge χ :=
  bridge.withDetector bridge.detector.reset

/-- Fail everything outstanding, give both locks back and stop.  A second shutdown does nothing. -/
def shutdown (bridge : Bridge χ) (now : Instant) : Bridge χ :=
  if bridge.running then
    let bridge := bridge.failAll now
    match bridge.locks.releaseAll now with
    | (locks, effects) =>
      { bridge with
        locks := locks
        primaryTimer := none
        ackTimer := none
        indicationListeners := []
        statusListeners := []
        running := false }.emit effects
  else
    bridge

/-- Add a listener for indications. -/
def listenIndications (bridge : Bridge χ) (listener : ListenerId) : Bridge χ :=
  { bridge with indicationListeners := bridge.indicationListeners ++ [listener] }

/-- Add a listener for changes of the fault status. -/
def listenStatus (bridge : Bridge χ) (listener : ListenerId) : Bridge χ :=
  { bridge with statusListeners := bridge.statusListeners ++ [listener] }

/-- A listener for indications hangs up. -/
def forgetIndicationListener (bridge : Bridge χ) (listener : ListenerId) : Bridge χ :=
  { bridge with indicationListeners := bridge.indicationListeners.filter (· ≠ listener) }

/-- A listener for changes of the fault status hangs up. -/
def forgetStatusListener (bridge : Bridge χ) (listener : ListenerId) : Bridge χ :=
  { bridge with statusListeners := bridge.statusListeners.filter (· ≠ listener) }

end ModemLink.Bridge
