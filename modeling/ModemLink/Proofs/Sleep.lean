/-
Module: ModemLink.Proofs.Sleep
Purpose: Before its earliest deadline a bridge misses nothing by not being woken.
Main exports: Bridge.Asleep, Asleep.fireDueTimers, wakeEach, asleep_until_deadline
-/
import ModemLink.Proofs.OneByOne
import ModemLink.Proofs.Wakeups

namespace ModemLink

/-!
The loop in front of a bridge sleeps until the deadline it is shown, and on nothing else.
Everything that the bridge would do at an instant by itself has a deadline that is compared for the
earliest one, so before that no timer is due, and a batch without events leaves a sample of the
number of attempts that wait and nothing else.  The bridge is asleep still after it: its deadlines
are what they were.
-/

namespace Bridge

variable {χ : Type} {bridge : Bridge χ} {now : Instant}

/-- No deadline has come: the bridge shows none, or a later one. -/
def Asleep (bridge : Bridge χ) (now : Instant) : Prop :=
  ∀ due ∈ bridge.nextDeadline?, now < due

instance (bridge : Bridge χ) (now : Instant) : Decidable (bridge.Asleep now) :=
  inferInstanceAs (Decidable (∀ due ∈ bridge.nextDeadline?, now < due))

/-- The shown deadline stands for all others. -/
theorem Asleep.lt_of_isDeadline (asleep : bridge.Asleep now) {due : Instant}
    (deadline : bridge.IsDeadline due) : now < due := by
  cases next : bridge.nextDeadline? with
  | none =>
      obtain ⟨earlier, among, -⟩ := exists_le_of_isDeadline deadline
      have none : bridge.deadlines.min? = none := next
      rw [List.min?_eq_none_iff.mp none] at among
      exact absurd among List.not_mem_nil
  | some first =>
      have least := (nextDeadline?_eq_some_iff.mp next).2 due deadline
      exact Nat.lt_of_lt_of_le (asleep first next) least

/-- The timers of a bridge that is asleep do nothing. -/
theorem Asleep.fireDueTimers (asleep : bridge.Asleep now) : bridge.fireDueTimers now = bridge := by
  apply fireDueTimers_of_idle
  · exact fun timer live => asleep.lt_of_isDeadline (.primary live)
  · exact fun timer live => asleep.lt_of_isDeadline (.ack live)
  · exact fun attempt waits => Nat.le_of_lt (asleep.lt_of_isDeadline (.age waits))

/-- Deadlines do not depend on samples. -/
theorem Resampled.asleep {plain other : Bridge χ} (same : Resampled plain other)
    (asleep : plain.Asleep now) : other.Asleep now := by
  have there : plain.present.Asleep now := asleep
  rw [← same.present] at there
  exact there

section

variable [Channel χ]

/-- Wake a bridge at some instants, without an event. -/
def wakeEach (bridge : Bridge χ) (wakings : List Instant) : Bridge χ :=
  wakings.foldl (fun bridge waking => bridge.handleBatch [] waking) bridge

/-- A bridge that is woken asleep is sampled once. -/
theorem Asleep.handleBatch_nil (asleep : bridge.Asleep now) :
    bridge.handleBatch [] now = bridge.measure (.pendingCount bridge.pending.size) := by
  simp [handleBatch, Event.inPhaseOrder, asleep.fireDueTimers]

/-- However often it is woken asleep, it is but sampled. -/
theorem resampled_wakeEach {plain other : Bridge χ} (same : Resampled plain other)
    {wakings : List Instant} (asleep : ∀ waking ∈ wakings, plain.Asleep waking) :
    Resampled plain (other.wakeEach wakings) := by
  induction wakings generalizing other with
  | nil => exact same
  | cons waking rest ih =>
      have first : other.Asleep waking := same.asleep (asleep waking List.mem_cons_self)
      have once : Resampled plain (other.handleBatch [] waking) := by
        rw [first.handleBatch_nil]
        exact same.measure _
      exact ih once fun later among => asleep later (List.mem_cons_of_mem _ among)

/-- Two bridges that differ in samples handle a batch alike. -/
theorem Resampled.handleBatch {plain other : Bridge χ} (same : Resampled plain other)
    (events : List Event) (now : Instant) :
    Resampled (plain.handleBatch events now) (other.handleBatch events now) :=
  same.call (.batch events now)

/-- On every bridge, reached by a run or not: while it is asleep the due timers leave all of it as
it is, its journal included, so that nothing is done to the world around it.  It may then be woken
at any number of instants, all before its earliest deadline, and each time find no event: a batch at
whatever instant leaves the same state afterwards, and has had the same effects in the same order,
as the batch without those wakings, apart from samples of the number of attempts that wait. -/
theorem asleep_until_deadline (bridge : Bridge χ) :
    (∀ now, bridge.Asleep now → bridge.fireDueTimers now = bridge) ∧
    ∀ (wakings : List Instant) (events : List Event) (now : Instant),
      (∀ waking ∈ wakings, bridge.Asleep waking) →
      let plain := bridge.handleBatch events now
      let woken := (bridge.wakeEach wakings).handleBatch events now
      { woken with journal := plain.journal } = plain ∧ woken.unsampled = plain.unsampled := by
  constructor
  · exact fun now asleep => asleep.fireDueTimers
  · intro wakings events now asleep plain woken
    have before : Resampled bridge (bridge.wakeEach wakings) :=
      resampled_wakeEach (.refl bridge) asleep
    have after : Resampled plain woken := before.handleBatch events now
    exact ⟨after.same, after.unsampled⟩

/-- The ack lock is due before the lock of the requests.  Three wakings before that leave a batch
past both deadlines to release the two locks, to time the request out and to handle the answer. -/
theorem asleep_until_deadline_of_ack :
    let sms : Submission := ⟨⟨1⟩, .sendSms, .empty, .unknown, 0, 7⟩
    let calls := [.batch [.submit sms, .indication ⟨1, .empty, .unsolicitedAckExpected⟩] 0]
    let bridge := (new { requestMaxAgeMs := 400 } (.start 2) ({} : RecordingChannel)).run calls
    let late := [.answer (.plain ⟨1⟩ .sendSms .success) .empty]
    let plain := bridge.handleBatch late 500000
    let woken := (bridge.wakeEach [1, 60000, 199999]).handleBatch late 500000
    bridge.nextDeadline? = some 200000 ∧ bridge.fireDueTimers 199999 = bridge ∧
      woken.ackTimer = none ∧ woken.pending.size = 0 ∧ woken.totals.staleAnswers = 1 ∧
      woken.unsampled = plain.unsampled ∧ woken.history.length = plain.history.length + 3 := by
  intro sms calls bridge late plain woken
  have next : bridge.nextDeadline? = some 200000 := by decide +kernel
  obtain ⟨idle, sleep⟩ := asleep_until_deadline bridge
  have early : ∀ waking ∈ [1, 60000, 199999], bridge.Asleep waking := by decide +kernel
  obtain ⟨state, effects⟩ := sleep [1, 60000, 199999] late 500000 early
  have timer := congrArg Bridge.ackTimer state
  have size := congrArg PendingTable.size (congrArg Bridge.pending state)
  have stale := congrArg Totals.staleAnswers (congrArg Bridge.totals state)
  have ended : plain.ackTimer = none ∧ plain.pending.size = 0 ∧ plain.totals.staleAnswers = 1 := by
    decide +kernel
  exact ⟨next, idle 199999 (early 199999 (by simp)), timer.trans ended.1, size.trans ended.2.1,
    stale.trans ended.2.2, effects, by decide +kernel⟩

end

end Bridge

end ModemLink
