/-
Module: ModemLink.Json.Encode
Purpose: How requests, settings, scenarios and views of a bridge look in JSON.
Main exports: Encode, Json.field, Json.byKind
-/
import ModemLink.Diagnostics
import ModemLink.Json
import ModemLink.Scenario
import ModemLink.WakeLock

namespace ModemLink

/-- A type whose values have a form in JSON. -/
class Encode (α : Type) where
  encode : α → Json

export Encode (encode)

namespace Json

/-- A field of an object. -/
def field {α : Type} [Encode α] (name : String) (value : α) : String × Json :=
  (name, encode value)

/-- An object with a field for each of some kinds. -/
def byKind {α : Type} [Encode α] (entries : List (RequestKind × α)) : Json :=
  .object (entries.map fun (kind, value) => (kind.label, encode value))

/-- Change the fields of an object, or drop some. -/
def edit (change : String → Json → Option Json) : Json → Json
  | .object fields => .object (fields.filterMap fun (name, value) =>
      (change name value).map (name, ·))
  | json => json

/-- An object without some of its fields. -/
def without (names : List String) : Json → Json :=
  edit fun name value => if names.contains name then none else some value

end Json

open Json (field)

/-! ## Plain values -/

instance : Encode Json := ⟨id⟩
instance : Encode Int := ⟨.number⟩
instance : Encode Nat := ⟨.nat⟩
instance : Encode UInt32 := ⟨fun n => .nat n.toNat⟩
instance : Encode UInt64 := ⟨fun n => .nat n.toNat⟩
instance : Encode Bool := ⟨.bool⟩
instance : Encode String := ⟨.text⟩
instance : Encode Float := ⟨.real⟩

/-- Bytes are given by their digits. -/
instance : Encode ByteArray := ⟨fun bytes => .text (Text.Hex.encode bytes)⟩

instance {α : Type} [Encode α] : Encode (Option α) where
  encode
    | some value => encode value
    | none => .null

instance {α : Type} [Encode α] : Encode (List α) := ⟨fun items => .list (items.map encode)⟩

/-- A pair is a list of two. -/
instance {α β : Type} [Encode α] [Encode β] : Encode (α × β) :=
  ⟨fun (a, b) => .list [encode a, encode b]⟩

/-! ## Requests -/

instance : Encode RequestKind := ⟨fun kind => .text kind.label⟩
instance : Encode Version := ⟨fun version => .text version.text⟩
instance : Encode Serial := ⟨fun serial => encode serial.value⟩
instance : Encode AnswerCode := ⟨fun code => .number code.value.toInt⟩
instance : Encode Origin := ⟨fun origin => encode origin.name⟩
instance : Encode AnswerType := ⟨fun type => .text type.label⟩
instance : Encode IndicationType := ⟨fun type => .text type.label⟩

instance : Encode Outbound where
  encode request := .object
    [field "serial" request.serial, field "kind" request.kind, field "version" request.version,
      field "payload" request.payload, field "origin" request.origin]

/-- A failure carries its sentence. -/
instance : Encode Outcome where
  encode
    | .ok payload => .object [field "ok" payload]
    | .failed failure =>
      let code := match failure with
        | .rejected _ code => [field "code" code]
        | _ => []
      .object ([field "err" failure.outcomeClass.label, field "kind" failure.kind,
        field "message" failure.message] ++ code)

/-- An attempt as it is at an instant. -/
def Attempt.view (now : Instant) (attempt : Attempt) : Json :=
  .object
    [field "serial" attempt.serial, field "kind" attempt.kind, field "version" attempt.version,
      field "attempt" attempt.number, field "lock" attempt.holdsLock,
      field "acknowledged" attempt.acknowledged, field "payload" attempt.payload,
      field "origin" attempt.origin.text, field "age" (attempt.age now),
      field "latency" (attempt.latency now)]

instance : Encode LockTimer where
  encode timer := .object
    [field "lock" timer.lock.label, field "generation" timer.generation,
      field "deadline" timer.deadline]

/-! ## Metrics -/

/-- The fields of a metric's declaration. -/
def Metric.declared (metric : Metric) : List (String × Json) :=
  [field "name" metric.name, field "kind" metric.kind.label,
    field "description" metric.description, field "unit" (metric.unit.map MetricUnit.label),
    field "labels" metric.labels]

/-- The call that declares a metric to a recorder. -/
def Metric.described (metric : Metric) : Json :=
  .list [encode metric.kind.label, encode metric.name, encode (metric.unit.map MetricUnit.label),
    encode metric.description]

/-- The call that gives a sample to a recorder. -/
instance : Encode MetricCall where
  encode call := .list
    [encode call.metric.kind.label, encode call.metric.name, encode call.labels,
      match call.value with
      | .count n => encode n
      | .real x => encode x]

/-! ## Settings and scenarios -/

instance : Encode DetectorConfig where
  encode config := .object
    [field "lock_timeout_threshold" config.lockTimeoutThreshold,
      field "lock_timeout_confirm_threshold" config.lockTimeoutConfirmThreshold,
      field "lock_timeout_window_ms" config.lockTimeoutWindowMs,
      field "system_error_threshold" config.systemErrorThreshold,
      field "system_error_confirm_threshold" config.systemErrorConfirmThreshold,
      field "system_error_codes" config.systemErrorCodes]

instance : Encode BridgeConfig where
  encode config := .object
    [field "name" config.name, field "serial_seed" config.serialSeed,
      field "wake_lock_timeout_ms" config.wakeLockTimeoutMs,
      field "ack_wake_lock_timeout_ms" config.ackWakeLockTimeoutMs,
      field "request_max_age_ms" config.requestMaxAgeMs,
      field "hal_version_cap" config.versionCap, field "bug_detector" config.detector]

instance : Encode ModemProfile where
  encode profile := .object
    [field "max_version" profile.maxVersion,
      ("kind_max_versions", .byKind profile.kindMaxVersions.present),
      ("errors", .byKind profile.errors.present),
      field "silent" (RequestKind.all.filter profile.silent.get),
      field "latency_ms" profile.latencyMs, field "jitter_ms" profile.jitterMs,
      field "ack_expected_probability" profile.ackProbability,
      field "request_acks" profile.requestAcks]

instance : Encode Step where
  encode
    | .submit kind count payload => .object
        [field "action" "submit", field "kind" kind, field "count" count,
          field "payload" payload]
    | .wait ms => .object [field "action" "wait", field "ms" ms]
    | .settle => .object [field "action" "settle"]
    | .indicate code ackExpected => .object
        [field "action" "indicate", field "code" code, field "ack_expected" ackExpected]
    | .channelLost => .object [field "action" "channel_lost"]
    | .channelRestart => .object [field "action" "channel_restart"]

instance : Encode Scenario where
  encode scenario := .object
    [field "name" scenario.name, field "description" scenario.description,
      field "seed" scenario.seed, field "bridge" scenario.bridge, field "modem" scenario.modem,
      field "settle_timeout_ms" scenario.settleTimeoutMs, field "steps" scenario.steps]

/-! ## Views of a bridge -/

instance : Encode FaultStatus := ⟨fun status => .text status.label⟩

instance : Encode Totals where
  encode totals := .object
    [field "sent" totals.sent, field "completed_ok" totals.completedOk,
      field "rejected" totals.rejected, field "unsupported" totals.unsupported,
      field "timed_out" totals.timedOut, field "channel_unavailable" totals.channelUnavailable,
      field "fallbacks" totals.fallbacks, field "stale_responses" totals.staleAnswers,
      field "acks_sent" totals.acksSent, field "indications" totals.indications,
      field "wake_lock_timeouts" totals.lockTimeouts]

instance : Encode FaultSnapshot where
  encode snapshot := .object
    [field "status" snapshot.status, field "lock_timeouts" snapshot.lockTimeouts,
      ("system_errors", .byKind snapshot.systemErrors)]

/-- Spans are given in whole milliseconds. -/
instance : Encode Diagnostics where
  encode view := .object
    [field "instance" view.instanceName, field "pending" view.pending,
      field "oldest_pending_age_ms" (view.oldestPendingAge.map Span.toMillis),
      field "primary_wake_lock_held" view.primaryHeld,
      field "primary_wake_lock_refs" view.primaryReferences,
      field "primary_wake_lock_held_ms" (view.primaryHeldFor.map Span.toMillis),
      field "ack_wake_lock_held" view.ackHeld, field "hal_version_cap" view.versionCap,
      ("versions", .byKind view.versions), field "bug_detector" view.faults,
      field "totals" view.totals]

end ModemLink
