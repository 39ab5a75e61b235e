/-
Module: ModemLink.Proofs.Meters
Purpose: What a bridge tells its metrics recorder, what it counts and what it does, in numbers.
Main exports:
  MetricCall.increment, MetricCall.isFor, recorded, counterSum, sampleCount, Counted, Metered,
  books_agree
-/
import ModemLink.Proofs.Books
import ModemLink.Proofs.Tally

namespace ModemLink

/-!
The books of a bridge are added up here.  An `Entry` stands in each of them in its own way: it is a
call to the metrics recorder, under the name of a metric and with some labels; it is one more in a
field of the totals; and it is a thing done to the world, which the history shows.
-/

namespace MetricCall

/-- What this call adds to a counter. -/
def increment (call : MetricCall) : Nat :=
  match call.value with
  | .count n => n
  | .real _ => 0

/-- What some calls add to a counter. -/
def total : List MetricCall → Nat
  | [] => 0
  | call :: rest => call.increment + total rest

theorem total_of_ones {calls : List MetricCall} (ones : ∀ call ∈ calls, call.increment = 1) :
    total calls = calls.length := by
  induction calls with
  | nil => rfl
  | cons call rest ih =>
      rw [total, ones call List.mem_cons_self, List.length_cons, Nat.add_comm]
      exact congrArg (· + 1) (ih fun other member => ones other (List.mem_cons_of_mem call member))

/-- Whether this call is on a metric and carries some labels, among others. -/
def isFor (call : MetricCall) (metric : Metric) (labels : List (String × String)) : Bool :=
  call.metric = metric && labels.all fun label => call.labels.contains label

/-- A call on a metric that is kept, with the labels that the metric declares. -/
structure Declared (call : MetricCall) : Prop where
  metric : call.metric ∈ Metric.all
  labels : call.labels.map (·.1) = call.metric.labels

end MetricCall

/-- Every measurement is taken as its metric is declared. -/
theorem Measurement.call_declared (name : String) (measurement : Measurement) :
    (measurement.call name).Declared := by
  constructor
  · cases measurement <;> simp [call, Metric.all]
  · cases measurement <;> rfl

theorem Measurement.instance_mem_labels (name : String) (measurement : Measurement) :
    ("instance", name) ∈ (measurement.call name).labels := by
  cases measurement <;> exact List.mem_cons_self

/-! ## Entries at the recorder -/

namespace Entry

/-- The metric on which an entry is sampled. -/
def metric : Entry → Metric
  | completed _ => .requestsCompleted
  | latency => .requestLatency
  | sent => .requestsSubmitted
  | ackSent => .acksSent
  | fallback => .versionFallbacks
  | staleAnswer => .staleAnswers
  | indication => .indicationsReceived
  | lockTimeout => .lockTimeouts
  | lockTaken _ => .lockAcquisitions
  | lockGivenBack _ => .lockHeld

/-- The labels that tell an entry from others on its metric. -/
def labels : Entry → List (String × String)
  | completed result => [("outcome", result.label)]
  | lockTaken lock | lockGivenBack lock => [("lock", lock.label)]
  | latency | sent | ackSent | fallback | staleAnswer | indication | lockTimeout => []

end Entry

theorem OutcomeClass.label_inj {result other : OutcomeClass} :
    result.label = other.label ↔ result = other := by
  cases result <;> cases other <;> simp [label]

theorem LockId.label_inj {lock other : LockId} : lock.label = other.label ↔ lock = other := by
  cases lock <;> cases other <;> simp [label]

/-- A call is found under the metric and the labels of an entry exactly if it books this entry. -/
theorem Measurement.isFor_call (name : String) (measurement : Measurement) (entry : Entry) :
    (measurement.call name).isFor entry.metric entry.labels = true ↔
      measurement.entry? = some entry := by
  -- no two metrics share a name, so only entries on the same metric are left to tell apart
  cases measurement <;> cases entry <;>
    simp [call, entry?, MetricCall.isFor, Entry.metric, Entry.labels, Labels.extend, Labels.pairs,
      Metric.requestsSubmitted, Metric.requestsCompleted, Metric.requestLatency,
      Metric.versionFallbacks, Metric.staleAnswers, Metric.pendingCount, Metric.lockAcquisitions,
      Metric.lockTimeouts, Metric.lockHeld, Metric.acksSent, Metric.indicationsReceived,
      Metric.faultStatusChanges, OutcomeClass.label_inj, LockId.label_inj]
  case completed.completed | lockAcquired.lockTaken | lockHeld.lockGivenBack => exact eq_comm

/-- Counters go up by one. -/
theorem Measurement.increment_call (name : String) {measurement : Measurement} {entry : Entry}
    (booked : measurement.entry? = some entry) (counter : entry.metric.kind = .counter) :
    (measurement.call name).increment = 1 := by
  cases measurement with
  | submitted | completed | fallback | staleAnswer | ackSent | indicationReceived | lockAcquired
  | lockTimedOut | statusChanged => rfl
  | latency | lockHeld =>
      cases booked
      cases counter
  | pendingCount => cases booked

/-! ## Entries in the totals -/

namespace Entry

/-- Whether the totals count this. -/
def isTotalled : Entry → Bool
  | latency | lockTaken _ | lockGivenBack _ => false
  | completed _ | sent | ackSent | fallback | staleAnswer | indication | lockTimeout => true

end Entry

namespace Totals

/-- How often an entry was counted. -/
def entered (totals : Totals) : Entry → Nat
  | .completed result => totals.ofClass result
  | .sent => totals.sent
  | .ackSent => totals.acksSent
  | .fallback => totals.fallbacks
  | .staleAnswer => totals.staleAnswers
  | .indication => totals.indications
  | .lockTimeout => totals.lockTimeouts
  | .latency | .lockTaken _ | .lockGivenBack _ => 0

theorem entered_enter {entry : Entry} (totalled : entry.isTotalled = true) (totals : Totals)
    (other : Entry) :
    (totals.enter other).entered entry =
      totals.entered entry + if other = entry then 1 else 0 := by
  cases other with
  | completed result =>
      cases entry with
      | completed other =>
          simp only [enter, entered, ofClass_record, Entry.completed.injEq, eq_comm]
      | sent | ackSent | fallback | staleAnswer | indication | lockTimeout => cases result <;> rfl
      | latency | lockTaken | lockGivenBack => cases totalled
  | latency | sent | ackSent | fallback | staleAnswer | indication | lockTimeout | lockTaken
  | lockGivenBack =>
      cases entry with
      | completed result => cases result <;> rfl
      | sent | ackSent | fallback | staleAnswer | indication | lockTimeout => rfl
      | latency | lockTaken | lockGivenBack => cases totalled

/-- The totals count what they are given. -/
theorem entered_foldl {entry : Entry} (totalled : entry.isTotalled = true) (entries : List Entry)
    (totals : Totals) :
    (entries.foldl enter totals).entered entry = totals.entered entry + entries.count entry := by
  induction entries generalizing totals with
  | nil => rfl
  | cons other rest ih =>
      rw [List.foldl_cons, ih, entered_enter totalled, List.count_cons]
      simp only [beq_iff_eq]
      omega

end Totals

/-! ## Entries in the history -/

namespace Effect

/-- Whether an entry is to be booked because of this effect. -/
def asksFor (effect : Effect) : Entry → Bool
  | .completed result =>
    (effect.outcome?.map fun told => decide (told.2.outcomeClass = result)).getD false
  | .latency => effect.outcome?.isSome
  | .sent => (effect.handed?.map fun handed => decide (handed.2 = .accepted)).getD false
  | .ackSent => effect == .acknowledged true
  | .lockTaken lock => effect == .lockTaken lock
  | .lockGivenBack lock => effect == .lockGivenBack lock
  | .fallback | .staleAnswer | .indication | .lockTimeout => false

theorem count_due (effect : Effect) (entry : Entry) :
    effect.due.count entry = if effect.asksFor entry then 1 else 0 := by
  cases effect with
  | settled ticket outcome =>
      cases entry <;> simp [due, asksFor, outcome?, handed?, List.count_cons]
  | handed request reply => cases reply <;> cases entry <;> rfl
  | acknowledged accepted => cases accepted <;> cases entry <;> rfl
  | lockTaken lock | lockGivenBack lock =>
      cases entry <;> simp [due, asksFor, outcome?, handed?, List.count_cons]
  | indicated | statusTold | measured => cases entry <;> rfl

end Effect

/-- What is to be booked is counted at the effects that ask for it. -/
theorem count_due (effects : List Effect) (entry : Entry) :
    (due effects).count entry = effects.countP (·.asksFor entry) := by
  induction effects with
  | nil => rfl
  | cons effect rest ih =>
      have parts : due (effect :: rest) = effect.due ++ due rest := rfl
      rw [parts, List.count_append, effect.count_due, ih, List.countP_cons, Nat.add_comm]

namespace Bridge

variable {χ : Type}

/-- The calls to the metrics recorder so far. -/
def recorded (bridge : Bridge χ) : List MetricCall :=
  (bridge.history.filterMap Effect.measurement?).map (Measurement.call bridge.name)

/-- What the calls on a counter with some labels add up to. -/
def counterSum (bridge : Bridge χ) (metric : Metric) (labels : List (String × String)) : Nat :=
  MetricCall.total (bridge.recorded.filter (·.isFor metric labels))

/-- How many calls were made on a metric with some labels. -/
def sampleCount (bridge : Bridge χ) (metric : Metric) (labels : List (String × String)) : Nat :=
  bridge.recorded.countP (·.isFor metric labels)

theorem sampleCount_entry (bridge : Bridge χ) (entry : Entry) :
    bridge.sampleCount entry.metric entry.labels = (sampled bridge.history).count entry := by
  have entries : sampled bridge.history =
      (bridge.history.filterMap Effect.measurement?).filterMap Measurement.entry? :=
    List.filterMap_filterMap.symm
  rw [sampleCount, recorded, List.countP_map, entries, List.count_filterMap]
  apply List.countP_congr
  intro measurement _
  rw [beq_iff_eq]
  exact measurement.isFor_call bridge.name entry

/-- On a counter the calls add up to their number. -/
theorem counterSum_entry (bridge : Bridge χ) (entry : Entry)
    (counter : entry.metric.kind = .counter) :
    bridge.counterSum entry.metric entry.labels = (sampled bridge.history).count entry := by
  have ones : ∀ call ∈ bridge.recorded.filter (·.isFor entry.metric entry.labels),
      call.increment = 1 := by
    intro call member
    obtain ⟨among, found⟩ := List.mem_filter.mp member
    obtain ⟨measurement, -, rfl⟩ := List.mem_map.mp among
    exact measurement.increment_call bridge.name ((measurement.isFor_call _ _).mp found) counter
  rw [← sampleCount_entry, sampleCount, List.countP_eq_length_filter]
  exact MetricCall.total_of_ones ones

/-! ## The account of a run -/

/-- All books of a bridge hold the same, when its fault detector was told of `signs`. -/
structure Balanced (bridge : Bridge χ) (signs : List Sign) : Prop where
  totals : ∀ entry : Entry, entry.isTotalled = true →
    bridge.totals.entered entry = (sampled bridge.history).count entry
  done : ∀ entry : Entry, entry.isSeen = true →
    (sampled bridge.history).count entry = bridge.history.countP (·.asksFor entry)
  signs : (sampled bridge.history).count .lockTimeout = signs.countP Sign.isLockTimeout

theorem balanced_of_booked {config : BridgeConfig} {serials : SerialSource} {channel : χ}
    {bridge : Bridge χ} {signs : List Sign}
    (booked : Booked (new config serials channel) bridge signs) : Balanced bridge signs := by
  obtain ⟨effects, grown, totals, timeouts, balance⟩ := booked.effects
  have history : bridge.history = effects := grown
  have free : (new config serials channel).locks.Timed :=
    ⟨fun nonzero => absurd rfl nonzero, fun nonzero => absurd rfl nonzero⟩
  constructor
  · intro entry totalled
    have nothing : (new config serials channel).totals.entered entry = 0 := by
      cases entry with
      | completed result => cases result <;> rfl
      | latency | sent | ackSent | fallback | staleAnswer | indication | lockTimeout | lockTaken
      | lockGivenBack => rfl
    rw [totals, Totals.entered_foldl totalled, nothing, Nat.zero_add, history]
  · intro entry seen
    rw [history, ← count_due, (balance free).2.count_eq, List.count_filter seen]
  · rw [history, timeouts]

/-- The totals of a bridge count what it did, when its fault detector was told of `signs`. -/
structure Counted (bridge : Bridge χ) (signs : List Sign) : Prop where
  outcomes : ∀ result,
    bridge.totals.ofClass result = bridge.outcomes.countP (·.2.outcomeClass = result)
  completed : bridge.totals.completed = bridge.outcomes.length
  sent : bridge.totals.sent = bridge.handovers.countP (·.2 = .accepted)
  acksSent : bridge.totals.acksSent = bridge.history.count (.acknowledged true)
  lockTimeouts : bridge.totals.lockTimeouts = signs.countP Sign.isLockTimeout

/-- The calls to the metrics recorder add up to the totals of a bridge, and to what it did. -/
structure Metered (bridge : Bridge χ) : Prop where
  submitted : bridge.counterSum .requestsSubmitted [] = bridge.totals.sent
  completed : ∀ result : OutcomeClass,
    bridge.counterSum .requestsCompleted [("outcome", result.label)] = bridge.totals.ofClass result
  latency : bridge.sampleCount .requestLatency [] = bridge.totals.completed
  fallbacks : bridge.counterSum .versionFallbacks [] = bridge.totals.fallbacks
  staleAnswers : bridge.counterSum .staleAnswers [] = bridge.totals.staleAnswers
  acksSent : bridge.counterSum .acksSent [] = bridge.totals.acksSent
  indications : bridge.counterSum .indicationsReceived [] = bridge.totals.indications
  lockTimeouts : bridge.counterSum .lockTimeouts [] = bridge.totals.lockTimeouts
  lockTaken : ∀ lock : LockId,
    bridge.counterSum .lockAcquisitions [("lock", lock.label)] =
      bridge.history.count (.lockTaken lock)
  lockGivenBack : ∀ lock : LockId,
    bridge.sampleCount .lockHeld [("lock", lock.label)] =
      bridge.history.count (.lockGivenBack lock)
  declared : ∀ call ∈ bridge.recorded, call.Declared ∧ ("instance", bridge.name) ∈ call.labels

/-- Outcomes, class by class. -/
theorem length_eq_classes (outcomes : List (Ticket × Outcome)) :
    outcomes.length =
      outcomes.countP (·.2.outcomeClass = .ok) + outcomes.countP (·.2.outcomeClass = .rejected) +
      outcomes.countP (·.2.outcomeClass = .unsupported) +
      outcomes.countP (·.2.outcomeClass = .timedOut) +
      outcomes.countP (·.2.outcomeClass = .channelUnavailable) := by
  induction outcomes with
  | nil => rfl
  | cons one rest ih =>
      simp only [List.length_cons, List.countP_cons, decide_eq_true_eq, ih]
      cases one.2.outcomeClass <;> simp <;> omega

theorem Balanced.counted {bridge : Bridge χ} {signs : List Sign}
    (balanced : Balanced bridge signs) : Counted bridge signs := by
  have outcomes : ∀ result,
      bridge.totals.ofClass result = bridge.outcomes.countP (·.2.outcomeClass = result) := by
    intro result
    rw [outcomes, List.countP_filterMap]
    exact (balanced.totals (.completed result) rfl).trans (balanced.done (.completed result) rfl)
  refine ⟨outcomes, ?_, ?_, ?_, ?_⟩
  · rw [length_eq_classes, ← outcomes, ← outcomes, ← outcomes, ← outcomes, ← outcomes]
    rfl
  · rw [handovers, List.countP_filterMap]
    exact (balanced.totals .sent rfl).trans (balanced.done .sent rfl)
  · exact (balanced.totals .ackSent rfl).trans (balanced.done .ackSent rfl)
  · exact (balanced.totals .lockTimeout rfl).trans balanced.signs

theorem Balanced.metered {bridge : Bridge χ} {signs : List Sign}
    (balanced : Balanced bridge signs) : Metered bridge := by
  have counters : ∀ entry : Entry, entry.metric.kind = .counter → entry.isTotalled = true →
      bridge.counterSum entry.metric entry.labels = bridge.totals.entered entry := by
    intro entry counter totalled
    rw [bridge.counterSum_entry entry counter, balanced.totals entry totalled]
  constructor
  case submitted => exact counters .sent rfl rfl
  case completed => exact fun result => counters (.completed result) rfl rfl
  case latency =>
    rw [balanced.counted.completed, outcomes, List.length_filterMap_eq_countP]
    exact (bridge.sampleCount_entry .latency).trans (balanced.done .latency rfl)
  case fallbacks => exact counters .fallback rfl rfl
  case staleAnswers => exact counters .staleAnswer rfl rfl
  case acksSent => exact counters .ackSent rfl rfl
  case indications => exact counters .indication rfl rfl
  case lockTimeouts => exact counters .lockTimeout rfl rfl
  case lockTaken =>
    intro lock
    exact (bridge.counterSum_entry (.lockTaken lock) rfl).trans (balanced.done _ rfl)
  case lockGivenBack =>
    intro lock
    exact (bridge.sampleCount_entry (.lockGivenBack lock)).trans (balanced.done _ rfl)
  case declared =>
    intro call member
    obtain ⟨measurement, -, rfl⟩ := List.mem_map.mp member
    exact ⟨measurement.call_declared bridge.name, measurement.instance_mem_labels bridge.name⟩

section

variable [Channel χ]

omit [Channel χ] in
/-- Every request handed in is told or waits. -/
theorem length_of_tally {bridge : Bridge χ} {submitted : List Submission}
    (tally : ∀ ticket, bridge.heard ticket + bridge.waiting ticket = demand submitted ticket) :
    submitted.length = bridge.outcomes.length + bridge.pending.size := by
  have lengths := (tickets_of_tally tally).length_eq
  rw [List.length_append, List.length_map, List.length_map, List.length_map] at lengths
  exact lengths.symm

theorem submissions_length (config : BridgeConfig) (serials : SerialSource) (channel : χ)
    {calls : List (Call χ)} (sound : ((new config serials channel).run calls).collision = none) :
    (calls.flatMap Call.submissions).length =
      ((new config serials channel).run calls).outcomes.length +
        ((new config serials channel).run calls).pending.size := by
  have tally := (tally_maintained fun _ => 0).run [] sound fun _ => rfl
  simp only [Nat.zero_add, List.nil_append] at tally
  exact length_of_tally tally

/-- After any run without a collision of serials all books agree.  Each request handed in was
counted as completed or waits.  The totals count the outcomes told, class by class, the requests and
the acknowledgements that the channel accepted, and the lock timeouts that the fault detector was
told of, among the signs that led it to where it is.  The metrics recorder was called with the
labels each metric declares, the name of the bridge among them; its counters add up to the totals
and to how often each lock was taken, and it was given one latency for each outcome and one time for
each lock given back. -/
theorem books_agree (config : BridgeConfig) (serials : SerialSource) (channel : χ)
    (calls : List (Call χ)) (bridge : Bridge χ)
    (reached : bridge = (new config serials channel).run calls)
    (sound : bridge.collision = none) :
    (calls.flatMap Call.submissions).length = bridge.totals.completed + bridge.pending.size ∧
    Counted bridge ((new config serials channel).signs calls) ∧
    bridge.detector = ((new config serials channel).signs calls).foldl FaultDetector.after
      (.new config.detector) ∧
    bridge.name = config.name ∧ Metered bridge := by
  subst reached
  have booked := booked_run (new config serials channel) calls
  have balanced := balanced_of_booked booked
  refine ⟨?_, balanced.counted, booked.detector, booked.name, balanced.metered⟩
  rw [balanced.counted.completed]
  exact submissions_length config serials channel sound

/-- One of two requests is answered, and is acknowledged.  The other one waits when both locks go
back to the system. -/
theorem books_agree_past_timeout :
    let calls : List (Call RecordingChannel) :=
      [.event (.submit ⟨⟨1⟩, .sendSms, .empty, .unknown, 0, 1⟩) 0,
        .event (.submit ⟨⟨2⟩, .getSignalStrength, .empty, .unknown, 0, 2⟩) 0,
        .event (.answer ⟨⟨2⟩, .getSignalStrength, .success, .solicitedAckExpected⟩ .empty) 1,
        .timers 60000000]
    let bridge := (new {} (.start 3) {}).run calls
    bridge.totals.completed = 1 ∧ bridge.pending.size = 1 ∧
      bridge.counterSum .requestsSubmitted [] = 2 ∧
      bridge.counterSum .requestsCompleted [("outcome", "ok")] = 1 ∧
      bridge.counterSum .acksSent [] = 1 ∧ bridge.counterSum .lockTimeouts [] = 1 ∧
      bridge.sampleCount .requestLatency [] = 1 ∧
      bridge.sampleCount .lockHeld [("lock", "primary")] = 1 ∧
      bridge.sampleCount .lockHeld [("lock", "ack")] = 1 := by
  intro calls bridge
  obtain ⟨handedIn, -, -, -, metered⟩ := books_agree {} (.start 3) ({} : RecordingChannel) calls
    bridge rfl (by decide +kernel)
  have waits : bridge.pending.size = 1 := by decide +kernel
  have completed : bridge.totals.completed = 1 := by
    rw [waits] at handedIn
    exact (Nat.succ.inj handedIn).symm
  refine ⟨completed, waits, ?_, ?_, ?_, ?_, ?_, ?_, ?_⟩
  · exact metered.submitted.trans (by decide +kernel)
  · exact (metered.completed .ok).trans (by decide +kernel)
  · exact metered.acksSent.trans (by decide +kernel)
  · exact metered.lockTimeouts.trans (by decide +kernel)
  · exact metered.latency.trans completed
  · exact (metered.lockGivenBack .primary).trans (by decide +kernel)
  · exact (metered.lockGivenBack .ack).trans (by decide +kernel)

end

end Bridge

end ModemLink
