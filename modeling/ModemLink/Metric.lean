/-
Module: ModemLink.Metric
Purpose: The metrics a bridge keeps: their declarations, their labels, and single measurements.
Main exports: Metric, Metric.all, Labels, Measurement, MetricCall, Measurement.call
-/
import ModemLink.Clock
import ModemLink.Outcome

namespace ModemLink

/-- How the samples of a metric add up. -/
inductive MetricKind where
  | counter
  | gauge
  | histogram
deriving DecidableEq, Repr, Inhabited

namespace MetricKind

def label : MetricKind → String
  | counter => "counter"
  | gauge => "gauge"
  | histogram => "histogram"

end MetricKind

/-- What the samples of a metric count. -/
inductive MetricUnit where
  | count
  | milliseconds
deriving DecidableEq, Repr, Inhabited

namespace MetricUnit

def label : MetricUnit → String
  | count => "count"
  | milliseconds => "milliseconds"

end MetricUnit

/-- Declaration of a metric: its name, what it says, and the keys of its labels. -/
structure Metric where
  name : String
  kind : MetricKind
  description : String
  unit : Option MetricUnit
  labels : List String
deriving DecidableEq, Repr

namespace Metric

/-! ## Requests -/

def requestsSubmitted : Metric where
  name := "radiobridge.request.submitted"
  kind := .counter
  description := "Requests handed to the hardware channel"
  unit := some .count
  labels := ["instance", "kind", "version"]

def requestsCompleted : Metric where
  name := "radiobridge.request.completed"
  kind := .counter
  description := "Requests that reached a terminal outcome"
  unit := some .count
  labels := ["instance", "kind", "outcome"]

def requestLatency : Metric where
  name := "radiobridge.request.latency_ms"
  kind := .histogram
  description := "Time from first submission to terminal outcome in milliseconds"
  unit := some .milliseconds
  labels := ["instance", "kind"]

def versionFallbacks : Metric where
  name := "radiobridge.compat.fallbacks"
  kind := .counter
  description := "Requests resubmitted at a lower HAL version"
  unit := some .count
  labels := ["instance", "kind", "from", "to"]

def staleAnswers : Metric where
  name := "radiobridge.response.stale"
  kind := .counter
  description := "Responses whose serial matched no pending request"
  unit := some .count
  labels := ["instance"]

def pendingCount : Metric where
  name := "radiobridge.pending.count"
  kind := .gauge
  description := "Requests awaiting a response"
  unit := some .count
  labels := ["instance"]

/-! ## Wake locks -/

def lockAcquisitions : Metric where
  name := "radiobridge.wakelock.acquired"
  kind := .counter
  description := "Wake lock acquisitions"
  unit := some .count
  labels := ["instance", "lock"]

def lockTimeouts : Metric where
  name := "radiobridge.wakelock.timeouts"
  kind := .counter
  description := "Wake locks force-released by their ceiling timer"
  unit := some .count
  labels := ["instance", "lock"]

def lockHeld : Metric where
  name := "radiobridge.wakelock.held_ms"
  kind := .histogram
  description := "Wake lock hold duration in milliseconds"
  unit := some .milliseconds
  labels := ["instance", "lock"]

/-! ## Channel and faults -/

def acksSent : Metric where
  name := "radiobridge.channel.acks_sent"
  kind := .counter
  description := "Acknowledgement frames sent to the modem"
  unit := some .count
  labels := ["instance"]

def indicationsReceived : Metric where
  name := "radiobridge.channel.indications"
  kind := .counter
  description := "Unsolicited indications received from the modem"
  unit := some .count
  labels := ["instance"]

def faultStatusChanges : Metric where
  name := "radiobridge.bug.status_changes"
  kind := .counter
  description := "Radio bug detector status transitions"
  unit := some .count
  labels := ["instance", "status"]

/-- Every metric a bridge keeps. -/
def all : List Metric :=
  [requestsSubmitted, requestsCompleted, requestLatency, versionFallbacks, staleAnswers,
    pendingCount, lockAcquisitions, lockTimeouts, lockHeld, acksSent, indicationsReceived,
    faultStatusChanges]

/-- No two metrics share a name. -/
theorem names_nodup : (all.map Metric.name).Nodup := by decide

end Metric

/-- The labels every sample of a bridge carries: its instance name and, where there is one, the
kind of request. -/
structure Labels where
  instanceName : String
  kind : Option RequestKind
deriving DecidableEq, Repr

namespace Labels

/-- The labels as pairs of key and value, the instance first. -/
def pairs (labels : Labels) : List (String × String) :=
  ("instance", labels.instanceName) :: (labels.kind.map fun kind => ("kind", kind.label)).toList

/-- The labels followed by others. -/
def extend (labels : Labels) (extra : List (String × String)) : List (String × String) :=
  labels.pairs ++ extra

end Labels

/-- The two wake locks: one for outstanding requests, one held briefly after acknowledgements. -/
inductive LockId where
  | primary
  | ack
deriving DecidableEq, Repr, Inhabited

namespace LockId

def label : LockId → String
  | primary => "primary"
  | ack => "ack"

end LockId

/-- What the bridge thinks of the modem. -/
inductive FaultStatus where
  | normal
  /-- Requests stayed unanswered until the primary lock hit its ceiling, too often in a row. -/
  | lockSuspected
  /-- One kind of request was answered by designated errors, too often in a row. -/
  | repetitiveErrorSuspected
  /-- Either went on for longer still.  Only a restart of the channel ends this. -/
  | confirmed
deriving DecidableEq, Repr, Inhabited

namespace FaultStatus

def label : FaultStatus → String
  | normal => "normal"
  | lockSuspected => "lock_suspected"
  | repetitiveErrorSuspected => "repetitive_error_suspected"
  | confirmed => "confirmed"

def all : List FaultStatus :=
  [normal, lockSuspected, repetitiveErrorSuspected, confirmed]

end FaultStatus

/-- One thing a bridge measures while it works. -/
inductive Measurement where
  | submitted (kind : RequestKind) (version : Version)
  | completed (kind : RequestKind) (outcome : OutcomeClass)
  | latency (kind : RequestKind) (span : Span)
  | fallback (kind : RequestKind) (failed next : Version)
  | staleAnswer
  | pendingCount (count : Nat)
  | lockAcquired (lock : LockId)
  | lockTimedOut (lock : LockId)
  | lockHeld (lock : LockId) (span : Span)
  | ackSent
  | indicationReceived
  | statusChanged (status : FaultStatus)
deriving DecidableEq, Repr

/-- The number in a sample: a whole count, or a real quantity. -/
inductive SampleValue where
  | count (n : Nat)
  | real (x : Float)

/-- One call to a metrics recorder. -/
structure MetricCall where
  metric : Metric
  labels : List (String × String)
  value : SampleValue

namespace Metric

/-- The form in which a metric of this kind takes a whole number. -/
def sampleValue (metric : Metric) (n : Nat) : SampleValue :=
  match metric.kind with
  | .counter => .count n
  | .gauge | .histogram => .real n.toUInt64.toFloat

end Metric

/-- A span as seconds, whole and fractional part rounded apart, times one thousand. -/
def Span.toMillisFloat (span : Span) : Float :=
  let whole := (span / 1000000).toUInt64.toFloat
  let nanos := (span % 1000000 * 1000).toUInt64.toFloat
  (whole + nanos / 1.0e9) * 1000.0

/-- The call a measurement makes, for a bridge of this name. -/
def Measurement.call (instanceName : String) : Measurement → MetricCall
  | submitted kind version =>
    ⟨.requestsSubmitted, (Labels.mk instanceName (some kind)).extend [("version", version.text)],
      .count 1⟩
  | completed kind outcome =>
    ⟨.requestsCompleted, (Labels.mk instanceName (some kind)).extend [("outcome", outcome.label)],
      .count 1⟩
  | latency kind span =>
    ⟨.requestLatency, (Labels.mk instanceName (some kind)).pairs, .real span.toMillisFloat⟩
  | fallback kind failed next =>
    ⟨.versionFallbacks,
      (Labels.mk instanceName (some kind)).extend [("from", failed.text), ("to", next.text)],
      .count 1⟩
  | staleAnswer => ⟨.staleAnswers, (Labels.mk instanceName none).pairs, .count 1⟩
  | pendingCount count =>
    ⟨.pendingCount, (Labels.mk instanceName none).pairs, Metric.pendingCount.sampleValue count⟩
  | lockAcquired lock =>
    ⟨.lockAcquisitions, (Labels.mk instanceName none).extend [("lock", lock.label)], .count 1⟩
  | lockTimedOut lock =>
    ⟨.lockTimeouts, (Labels.mk instanceName none).extend [("lock", lock.label)], .count 1⟩
  | lockHeld lock span =>
    ⟨.lockHeld, (Labels.mk instanceName none).extend [("lock", lock.label)],
      .real span.toMillisFloat⟩
  | ackSent => ⟨.acksSent, (Labels.mk instanceName none).pairs, .count 1⟩
  | indicationReceived => ⟨.indicationsReceived, (Labels.mk instanceName none).pairs, .count 1⟩
  | statusChanged status =>
    ⟨.faultStatusChanges, (Labels.mk instanceName none).extend [("status", status.label)],
      .count 1⟩

end ModemLink
