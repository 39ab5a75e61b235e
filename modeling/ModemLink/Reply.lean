/-
Module: ModemLink.Reply
Purpose: A caller's way to wait for the outcome of one request.
Main exports: Reply, Reply.note, Reply.poll, Reply.await
-/
import ModemLink.Journal

namespace ModemLink

/-- What a caller holds while a request is under way.  The outcome can be taken once. -/
structure Reply where
  kind : RequestKind
  ticket : Ticket
  outcome : Option Outcome := none
  taken : Bool := false
deriving DecidableEq

namespace Reply

/-- Keep the outcome that an effect delivers to this request. -/
def note (reply : Reply) (effect : Effect) : Reply :=
  match effect with
  | .settled ticket outcome =>
    if ticket = reply.ticket then { reply with outcome := some outcome } else reply
  | _ => reply

/-- Take the outcome if it is there. -/
def poll (reply : Reply) : Option Outcome × Reply :=
  if reply.taken then (none, reply)
  else (reply.outcome, { reply with taken := reply.outcome.isSome })

/-- Take the outcome, waiting for it as long as the caller can.  There is none if nothing came in time;
once it was taken nothing can come, as if the channel had gone. -/
def await (reply : Reply) : Option Outcome × Reply :=
  if reply.taken then (some (.failed (.channelUnavailable reply.kind)), reply)
  else reply.poll

end Reply

end ModemLink
