/-
Module: ModemLink.Proofs.OneByOne
Purpose: A batch does what its events do one by one.
Main exports: unsampled, Resampled, batchEach, resampled_batchEach, batch_one_by_one
-/
import ModemLink.Proofs.Calm
import ModemLink.Proofs.Past

namespace ModemLink

/-!
A batch fires the due timers once.  If its events come one by one, each in a batch of its own, then
the timers are looked at again before each of them.  But the first of these batches leaves a calm
bridge, and whatever an event starts is not due at the instant at which it is handled.  So what is
left of the difference are samples of the number of attempts that wait, one after each event.
-/

/-- Whether this effect is a sample of the number of attempts that wait. -/
def Effect.isPendingCount : Effect → Bool
  | measured (.pendingCount _) => true
  | _ => false

theorem Event.inPhaseOrder_singleton (event : Event) : Event.inPhaseOrder [event] = [event] := by
  cases phase : event.phase <;> simp [inPhaseOrder, phase]

namespace Bridge

variable {χ : Type}

/-- What was done so far, without the samples of the number of attempts that wait. -/
def unsampled (bridge : Bridge χ) : List Effect :=
  bridge.history.filter fun effect => !effect.isPendingCount

/-- Two bridges that differ in samples of the number of attempts that wait, and in nothing else. -/
structure Resampled (plain other : Bridge χ) : Prop where
  present : other.present = plain.present
  stale : other.totals.staleAnswers = plain.totals.staleAnswers
  unsampled : other.unsampled = plain.unsampled

theorem unsampled_measure (bridge : Bridge χ) (size : Nat) :
    (bridge.measure (.pendingCount size)).unsampled = bridge.unsampled := by
  simp [unsampled, measure, Effect.isPendingCount]

theorem unsampled_onto (bridge : Bridge χ) (past : Past) :
    (bridge.onto past).unsampled =
      (past.journal.reverse.filter fun effect => !effect.isPendingCount) ++ bridge.unsampled := by
  simp [unsampled, history_onto]

namespace Resampled

variable {plain other : Bridge χ}

theorem refl (bridge : Bridge χ) : Resampled bridge bridge :=
  ⟨rfl, rfl, rfl⟩

/-- One of the two is sampled once more. -/
theorem measure (same : Resampled plain other) (size : Nat) :
    Resampled plain (other.measure (.pendingCount size)) := by
  constructor
  · exact same.present
  · exact same.stale
  · rw [unsampled_measure]
    exact same.unsampled

theorem symm (same : Resampled plain other) : Resampled other plain :=
  ⟨same.present.symm, same.stale.symm, same.unsampled.symm⟩

/-- The bridges are the same but for their journals. -/
theorem same (same : Resampled plain other) : { other with journal := plain.journal } = plain := by
  calc { other with journal := plain.journal }
    _ = other.present.onto ⟨plain.journal, other.totals.staleAnswers⟩ := by
      simp [Bridge.present, onto]
    _ = plain.present.onto plain.past := by rw [same.present, same.stale, past]
    _ = plain := present_onto_past plain

theorem running (same : Resampled plain other) : other.running = plain.running :=
  show other.present.running = plain.present.running from congrArg Bridge.running same.present

theorem calm (same : Resampled plain other) {now : Instant} (calm : plain.Calm now) :
    other.Calm now := by
  have there : plain.present.Calm now := ⟨calm.time, calm.primary, calm.ack, calm.young⟩
  rw [← same.present] at there
  exact ⟨there.time, there.primary, there.ack, there.young⟩

/-- A call of both. -/
theorem call [Channel χ] (same : Resampled plain other) (call : Call χ) :
    Resampled (plain.call call) (other.call call) := by
  have journals := same.unsampled
  rw [call_eq_onto plain, call_eq_onto other, same.present]
  constructor
  · rfl
  · simp [onto, past, same.stale]
  · simp only [unsampled_onto, past]
    exact congrArg (· ++ _) journals

end Resampled

section

variable [Channel χ]

/-- Handle some events, each as a batch of its own. -/
def batchEach (bridge : Bridge χ) (now : Instant) (events : List Event) : Bridge χ :=
  events.foldl (fun bridge event => bridge.handleBatch [event] now) bridge

theorem handleBatch_singleton (bridge : Bridge χ) (event : Event) (now : Instant) :
    bridge.handleBatch [event] now =
      ((bridge.fireDueTimers now).handle now event).measure
        (.pendingCount ((bridge.fireDueTimers now).handle now event).pending.size) := by
  simp [handleBatch, Event.inPhaseOrder_singleton]

/-- On a calm bridge, batches of one event each add nothing but samples to the events. -/
theorem resampled_batchEach {plain other : Bridge χ} {now : Instant} (calm : plain.Calm now)
    (same : Resampled plain other) (events : List Event) :
    Resampled (plain.handleEach now events) (other.batchEach now events) := by
  induction events generalizing plain other with
  | nil => exact same
  | cons event rest ih =>
      have next : Resampled (plain.handle now event) (other.handleBatch [event] now) := by
        rw [handleBatch_singleton, fireDueTimers_of_calm (same.calm calm)]
        exact (same.call (.event event now)).measure _
      exact ih (calm.after (timely_handle plain now event)) next

/-- The first of several batches at one instant leaves nothing for the timers of the others. -/
theorem batchEach_fireDueTimers {bridge : Bridge χ} {now : Instant}
    (calm : (bridge.fireDueTimers now).Calm now) {events : List Event} (some : events ≠ []) :
    (bridge.fireDueTimers now).batchEach now events = bridge.batchEach now events := by
  cases events with
  | nil => exact absurd rfl some
  | cons event rest =>
      have first : (bridge.fireDueTimers now).handleBatch [event] now =
          bridge.handleBatch [event] now := by
        rw [handleBatch_singleton, fireDueTimers_of_calm calm, ← handleBatch_singleton]
      simp [batchEach, first]

/-- In every run under settings that make sense, a batch of some events leaves the bridge as the
events leave it one by one, each in a batch of its own at the same instant: first what the modem
sent, then the new requests, then control, each in the order of arrival.  It goes on running or has
stopped alike, and does the same to the world around it in the same order, so that callbacks,
frames, acknowledgements and listeners see no difference; only the number of attempts that wait is
sampled more often.  Firing the due timers once more at that instant does nothing. -/
theorem batch_one_by_one (config : BridgeConfig) (valid : config.validate = .ok ())
    (serials : SerialSource) (channel : χ) (calls : List (Call χ)) (events : List Event)
    (some : events ≠ []) (now : Instant) :
    let bridge := (new config serials channel).run calls
    let whole := bridge.handleBatch events now
    let single := bridge.batchEach now (events.filter (·.phase = .inbound) ++
      events.filter (·.phase = .submission) ++ events.filter (·.phase = .control))
    { single with journal := whole.journal } = whole ∧ single.running = whole.running ∧
    single.unsampled = whole.unsampled ∧
    (bridge.fireDueTimers now).fireDueTimers now = bridge.fireDueTimers now ∧
    whole.fireDueTimers now = whole := by
  intro bridge whole single
  have calm : (bridge.fireDueTimers now).Calm now :=
    calm_fireDueTimers (giveTime_run valid serials channel calls) now
  have ordered : Event.inPhaseOrder events ≠ [] := by
    intro none
    have perm := Event.inPhaseOrder_perm events
    rw [none] at perm
    exact some perm.nil_eq.symm
  have same : Resampled whole single := by
    have handled := resampled_batchEach calm (.refl _) (Event.inPhaseOrder events)
    rw [batchEach_fireDueTimers calm ordered] at handled
    exact (handled.symm.measure _).symm
  have later : whole.Calm now := by
    have handled := calm.after (timely_handleEach _ now (Event.inPhaseOrder events))
    exact handled.after (.of_ended rfl rfl rfl (Or.inl rfl) (Or.inl rfl))
  exact ⟨same.same, same.running, same.unsampled, fireDueTimers_of_calm calm,
    fireDueTimers_of_calm later⟩

/-- At the instant at which the ack lock is due, a request comes before the modem refuses a version
and sends an indication: the retry is issued, and the ack lock starts anew, in four batches as in
one. -/
theorem batch_one_by_one_around_retry :
    let sms : Submission := ⟨⟨2⟩, .sendSms, .empty, .unknown, 0, 8⟩
    let unknown : AnswerHeader := .plain ⟨1⟩ .getSignalStrength .requestNotSupported
    let note : Indication := ⟨1, .empty, .unsolicitedAckExpected⟩
    let calls := [.batch [.submit ⟨⟨1⟩, .getSignalStrength, .empty, .unknown, 0, 7⟩,
      .indication note] 0]
    let events := [.channelRestarted, .submit sms, .answer unknown .empty, .indication note]
    let bridge := (new {} (.start 3) ({} : RecordingChannel)).run calls
    let whole := bridge.handleBatch events 200000
    let single := bridge.batchEach 200000 (Event.inPhaseOrder events)
    single.running = true ∧ single.ackTimer = some ⟨.ack, 2, 400000⟩ ∧
      single.pending.size = 2 ∧ single.unsampled = whole.unsampled ∧
      single.history.length = whole.history.length + 3 := by
  intro sms unknown note calls events bridge whole single
  obtain ⟨state, running, effects, -, -⟩ := batch_one_by_one {} rfl (.start 3)
    ({} : RecordingChannel) calls events (by simp [events]) 200000
  have timer := congrArg Bridge.ackTimer state
  have size := congrArg PendingTable.size (congrArg Bridge.pending state)
  have started : whole.ackTimer = some ⟨.ack, 2, 400000⟩ := by decide +kernel
  have waits : whole.pending.size = 2 := by decide +kernel
  exact ⟨running.trans (by decide +kernel), timer.trans started, size.trans waits, effects,
    by decide +kernel⟩

end

end Bridge

end ModemLink
