/-
Module: ModemLink.Journal
Purpose: What a bridge does to the world around it, as data.
Main exports: Effect, SendReply, ListenerId
-/
import ModemLink.Attempt
import ModemLink.Metric

namespace ModemLink

/-- What the channel says to a request. -/
inductive SendReply where
  /-- The request is on its way. -/
  | accepted
  /-- The channel cannot reach the modem. -/
  | unavailable (reason : String)
  /-- The channel knows that the modem does not speak the version asked for. -/
  | versionRefused
deriving DecidableEq, Repr

/-- Names a listener for indications or for changes of the fault status. -/
abbrev ListenerId := Nat

/-- One thing a bridge does to the world around it. -/
inductive Effect where
  /-- A wake lock is taken from the system. -/
  | lockTaken (lock : LockId)
  /-- A wake lock is given back to the system. -/
  | lockGivenBack (lock : LockId)
  /-- A request is handed to the channel, which replies. -/
  | handed (request : Outbound) (reply : SendReply)
  /-- An acknowledgement is handed to the channel, which accepts it or not. -/
  | acknowledged (accepted : Bool)
  /-- The callback of a ticket runs. -/
  | settled (ticket : Ticket) (outcome : Outcome)
  /-- An indication reaches a listener. -/
  | indicated (listener : ListenerId) (indication : Indication)
  /-- A change of the fault status reaches a listener. -/
  | statusTold (listener : ListenerId) (status : FaultStatus)
  /-- A metric gets a sample. -/
  | measured (measurement : Measurement)
deriving DecidableEq

namespace Effect

/-- The outcome this effect delivers. -/
def outcome? : Effect → Option (Ticket × Outcome)
  | settled ticket outcome => some (ticket, outcome)
  | _ => none

/-- The request the channel accepted in this effect. -/
def sent? : Effect → Option Outbound
  | handed request .accepted => some request
  | _ => none

/-- Whether this effect is an acknowledgement the channel accepted. -/
def isAckSent : Effect → Bool
  | acknowledged accepted => accepted
  | _ => false

/-- The sample this effect gives to a metric. -/
def measurement? : Effect → Option Measurement
  | measured measurement => some measurement
  | _ => none

/-- The indication this effect brings to a listener. -/
def indicationFor? (listener : ListenerId) : Effect → Option Indication
  | indicated other indication => if other = listener then some indication else none
  | _ => none

/-- The status this effect brings to a listener. -/
def statusFor? (listener : ListenerId) : Effect → Option FaultStatus
  | statusTold other status => if other = listener then some status else none
  | _ => none

end Effect

/-- What a recording wake lock shows: whether it is held, and how often it changed hands. -/
structure LockUsage where
  held : Bool
  acquisitions : Nat
  releases : Nat
deriving DecidableEq, Repr, Inhabited

namespace LockUsage

def untouched : LockUsage := ⟨false, 0, 0⟩

/-- The usage of a lock after one more effect. -/
def after (lock : LockId) (usage : LockUsage) : Effect → LockUsage
  | .lockTaken other =>
    if other = lock then ⟨true, usage.acquisitions + 1, usage.releases⟩ else usage
  | .lockGivenBack other =>
    if other = lock then ⟨false, usage.acquisitions, usage.releases + 1⟩ else usage
  | _ => usage

/-- The usage of a lock after a list of effects. -/
def afterAll (lock : LockId) (usage : LockUsage) (effects : List Effect) : LockUsage :=
  effects.foldl (after lock) usage

end LockUsage

/-- The usage of both locks. -/
structure LockUsages where
  primary : LockUsage := .untouched
  ack : LockUsage := .untouched
deriving DecidableEq, Repr, Inhabited

namespace LockUsages

/-- The usage of both locks after one more effect. -/
def after (usages : LockUsages) (effect : Effect) : LockUsages :=
  ⟨usages.primary.after .primary effect, usages.ack.after .ack effect⟩

/-- The usage of both locks after a list of effects. -/
def afterAll (usages : LockUsages) (effects : List Effect) : LockUsages :=
  effects.foldl after usages

end LockUsages

end ModemLink
