/-
Module: ModemLink.Outcome
Purpose: What a caller is told in the end.
Main exports: Failure, Failure.message, Outcome, OutcomeClass, Outcome.outcomeClass
-/
import ModemLink.Frame

namespace ModemLink

/-- Why a request failed.  Each failure names the kind of the request. -/
inductive Failure where
  /-- No version of the request is left that the modem might know. -/
  | unsupported (kind : RequestKind)
  /-- The modem answered with an error. -/
  | rejected (kind : RequestKind) (code : AnswerCode)
  /-- No answer came in time. -/
  | timedOut (kind : RequestKind)
  /-- The request did not reach the modem, or its answer cannot come any more. -/
  | channelUnavailable (kind : RequestKind)
deriving DecidableEq, Repr

namespace Failure

def kind : Failure → RequestKind
  | unsupported kind => kind
  | rejected kind _ => kind
  | timedOut kind => kind
  | channelUnavailable kind => kind

/-- The failure as a sentence. -/
def message : Failure → String
  | unsupported kind => s!"{kind} is not supported by the modem at any known version"
  | rejected kind code => s!"{kind} rejected by the modem: {code}"
  | timedOut kind => s!"{kind} timed out waiting for a response"
  | channelUnavailable kind => s!"{kind} could not be delivered: channel unavailable"

end Failure

/-- The end of a request: the bytes of the modem's answer, or a failure. -/
inductive Outcome where
  | ok (payload : Payload)
  | failed (failure : Failure)
deriving DecidableEq

/-- The class of an outcome, by which outcomes are counted. -/
inductive OutcomeClass where
  | ok
  | rejected
  | unsupported
  | timedOut
  | channelUnavailable
deriving DecidableEq, Repr, Inhabited

namespace OutcomeClass

/-- The name of the class, in reports and metrics. -/
def label : OutcomeClass → String
  | ok => "ok"
  | rejected => "rejected"
  | unsupported => "unsupported"
  | timedOut => "timed_out"
  | channelUnavailable => "channel_unavailable"

end OutcomeClass

/-- The class of a failure. -/
def Failure.outcomeClass : Failure → OutcomeClass
  | unsupported _ => .unsupported
  | rejected _ _ => .rejected
  | timedOut _ => .timedOut
  | channelUnavailable _ => .channelUnavailable

/-- The class of an outcome. -/
def Outcome.outcomeClass : Outcome → OutcomeClass
  | ok _ => .ok
  | failed failure => failure.outcomeClass

end ModemLink
