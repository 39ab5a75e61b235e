/-
Module: ModemLink.Proofs.Books
Purpose: What is done, what is counted and what is sampled, entry by entry.
Main exports: Entry, sampled, due, Sign, Booked, signsIn, booked_react, booked_run
-/
import ModemLink.Proofs.Course

namespace ModemLink

/-!
Three books are kept of what a bridge does: what it does to the world, its totals, and the samples
it gives to metrics.  An `Entry` is one thing to be booked.  `Booked before after signs` says that
from `before` to `after` the totals grew by the entries that were sampled, that what was done to the
world was sampled, each thing once, and that the fault detector was told of `signs`.
-/

/-- One thing to be booked. -/
inductive Entry where
  | completed (result : OutcomeClass)
  | latency
  | sent
  | ackSent
  | fallback
  | staleAnswer
  | indication
  | lockTimeout
  | lockTaken (lock : LockId)
  | lockGivenBack (lock : LockId)
deriving DecidableEq

namespace Entry

/-- Whether this is something done to the world around a bridge. -/
def isSeen : Entry → Bool
  | fallback | staleAnswer | indication | lockTimeout => false
  | completed _ | latency | sent | ackSent | lockTaken _ | lockGivenBack _ => true

/-- Whether this is about a hold of a wake lock, which the totals leave out. -/
def isHold : Entry → Bool
  | lockTaken _ | lockGivenBack _ => true
  | _ => false

theorem isSeen_of_isHold {entry : Entry} (hold : entry.isHold = true) : entry.isSeen = true := by
  cases entry <;> first | rfl | cases hold

end Entry

/-- What a sample books.  A sample of a level, or of a change, books nothing. -/
def Measurement.entry? : Measurement → Option Entry
  | submitted _ _ => some .sent
  | completed _ result => some (.completed result)
  | latency _ _ => some .latency
  | fallback _ _ _ => some .fallback
  | staleAnswer => some .staleAnswer
  | ackSent => some .ackSent
  | indicationReceived => some .indication
  | lockAcquired lock => some (.lockTaken lock)
  | lockHeld lock _ => some (.lockGivenBack lock)
  | lockTimedOut _ => some .lockTimeout
  | pendingCount _ | statusChanged _ => none

namespace Effect

/-- What this effect books as a sample. -/
def sampled? (effect : Effect) : Option Entry :=
  effect.measurement?.bind Measurement.entry?

/-- What is to be booked because of this effect. -/
def due : Effect → List Entry
  | settled _ outcome => [.completed outcome.outcomeClass, .latency]
  | handed _ .accepted => [.sent]
  | acknowledged true => [.ackSent]
  | lockTaken lock => [.lockTaken lock]
  | lockGivenBack lock => [.lockGivenBack lock]
  | handed _ _ | acknowledged false | indicated _ _ | statusTold _ _ | measured _ => []

end Effect

/-- What some effects book as samples. -/
def sampled (effects : List Effect) : List Entry :=
  effects.filterMap Effect.sampled?

/-- What is to be booked because of some effects. -/
def due (effects : List Effect) : List Entry :=
  effects.flatMap Effect.due

theorem sampled_append (effects more : List Effect) :
    sampled (effects ++ more) = sampled effects ++ sampled more :=
  List.filterMap_append

theorem due_append (effects more : List Effect) : due (effects ++ more) = due effects ++ due more :=
  List.flatMap_append

/-- These effects book nothing, and nothing is to be booked because of them. -/
structure Unbooked (effects : List Effect) : Prop where
  sampled : sampled effects = []
  due : due effects = []

theorem unbooked_map {α : Type} {tell : α → Effect} (silent : ∀ one, (tell one).sampled? = none)
    (nothing : ∀ one, (tell one).due = []) (listeners : List α) :
    Unbooked (listeners.map tell) := by
  constructor
  · rw [sampled, List.filterMap_map, List.filterMap_eq_nil_iff]
    exact fun one _ => silent one
  · rw [due, List.flatMap_map, List.flatMap_eq_nil_iff]
    exact fun one _ => nothing one

/-- The totals with one more entry. -/
def Totals.enter (totals : Totals) : Entry → Totals
  | .completed result => totals.record result
  | .sent => { totals with sent := totals.sent + 1 }
  | .ackSent => { totals with acksSent := totals.acksSent + 1 }
  | .fallback => { totals with fallbacks := totals.fallbacks + 1 }
  | .staleAnswer => { totals with staleAnswers := totals.staleAnswers + 1 }
  | .indication => { totals with indications := totals.indications + 1 }
  | .lockTimeout => { totals with lockTimeouts := totals.lockTimeouts + 1 }
  | .latency | .lockTaken _ | .lockGivenBack _ => totals

theorem Totals.enter_of_holds {entries : List Entry} (holds : ∀ entry ∈ entries, entry.isHold)
    (totals : Totals) : entries.foldl enter totals = totals := by
  induction entries with
  | nil => rfl
  | cons entry rest ih =>
      have hold := holds entry List.mem_cons_self
      have same : totals.enter entry = totals := by
        cases entry <;> first | rfl | cases hold
      rw [List.foldl_cons, same]
      exact ih fun other member => holds other (List.mem_cons_of_mem entry member)

/-! ## What the fault detector is told -/

/-- What a fault detector is told. -/
inductive Sign where
  | lockTimeout (now : Instant)
  | answered (kind : RequestKind) (code : AnswerCode) (now : Instant)
  | restarted
deriving DecidableEq

def Sign.isLockTimeout : Sign → Bool
  | lockTimeout _ => true
  | answered _ _ _ | restarted => false

/-- The detector after a sign. -/
def FaultDetector.after (detector : FaultDetector) : Sign → FaultDetector
  | .lockTimeout now => (detector.onLockTimeout now).2
  | .answered kind code now => (detector.onAnswer kind code now).2
  | .restarted => detector.reset.2

/-! ## Wake locks -/

/-- It is known since when the lock is held, if it is. -/
def WakeLock.Timed (lock : WakeLock) : Prop :=
  lock.count ≠ 0 → lock.heldSince.isSome = true

structure WakeLocks.Timed (locks : WakeLocks) : Prop where
  primary : locks.primary.Timed
  ack : locks.ack.Timed

/-- From `before` to `after` a lock is taken and given back as `effects` say, and each hold is
sampled when it begins and when it ends. -/
structure WakeLock.Booked (before after : WakeLock) (effects : List Effect) : Prop where
  holds : ∀ entry ∈ sampled effects, entry.isHold
  timed : before.Timed → after.Timed ∧ (due effects).Perm (sampled effects)

namespace WakeLock

theorem booked_of_nothing (lock : WakeLock) : lock.Booked lock [] where
  holds := fun _ member => absurd member List.not_mem_nil
  timed := fun timed => ⟨timed, .refl _⟩

theorem booked_take (lock : WakeLock) (now : Instant) :
    lock.Booked (lock.take now).1 (lock.take now).2 := by
  unfold take
  split
  · constructor
    · intro entry member
      rw [List.mem_singleton.mp member]
      rfl
    · exact fun _ => ⟨fun _ => rfl, .refl _⟩
  · rename_i held
    exact ⟨fun _ member => absurd member List.not_mem_nil,
      fun timed => ⟨fun _ => timed held, .refl _⟩⟩

theorem booked_giveBack {lock : WakeLock} (held : lock.count ≠ 0) (now : Instant) :
    lock.Booked (lock.giveBack now).1 (lock.giveBack now).2 := by
  unfold giveBack
  constructor
  · intro entry member
    cases since : lock.heldSince with
    | none =>
        rw [since] at member
        exact absurd member List.not_mem_nil
    | some start =>
        rw [since] at member
        rw [List.mem_singleton.mp member]
        rfl
  · intro timed
    obtain ⟨start, since⟩ := Option.isSome_iff_exists.mp (timed held)
    rw [since]
    exact ⟨fun nonzero => absurd rfl nonzero, .refl _⟩

theorem booked_drop (lock : WakeLock) (now : Instant) :
    lock.Booked (lock.drop now).1 (lock.drop now).2 := by
  unfold drop
  split
  · exact booked_of_nothing lock
  · rename_i held
    split
    · exact booked_giveBack held now
    · exact ⟨fun _ member => absurd member List.not_mem_nil,
        fun timed => ⟨fun _ => timed held, .refl _⟩⟩

theorem booked_expire (lock : WakeLock) (generation : UInt64) (now : Instant) :
    lock.Booked (lock.expire generation now).2.1 (lock.expire generation now).2.2 := by
  unfold expire
  split
  · rename_i live
    exact booked_giveBack live.2 now
  · exact booked_of_nothing lock

theorem booked_clear (lock : WakeLock) (now : Instant) :
    lock.Booked (lock.clear now).1 (lock.clear now).2 := by
  unfold clear
  split
  · exact booked_of_nothing lock
  · rename_i held
    exact booked_giveBack held now

end WakeLock

/-- The same of both locks. -/
structure WakeLocks.Booked (before after : WakeLocks) (effects : List Effect) : Prop where
  holds : ∀ entry ∈ sampled effects, entry.isHold
  timed : before.Timed → after.Timed ∧ (due effects).Perm (sampled effects)

namespace WakeLocks

theorem booked_of_primary {locks : WakeLocks} {primary : WakeLock} {effects : List Effect}
    (booked : locks.primary.Booked primary effects) :
    locks.Booked { locks with primary := primary } effects where
  holds := booked.holds
  timed := fun timed =>
    have primary := booked.timed timed.primary
    ⟨⟨primary.1, timed.ack⟩, primary.2⟩

theorem booked_of_ack {locks : WakeLocks} {ack : WakeLock} {effects : List Effect}
    (booked : locks.ack.Booked ack effects) : locks.Booked { locks with ack := ack } effects where
  holds := booked.holds
  timed := fun timed =>
    have ack := booked.timed timed.ack
    ⟨⟨timed.primary, ack.1⟩, ack.2⟩

theorem Booked.trans {first middle last : WakeLocks} {effects more : List Effect}
    (earlier : first.Booked middle effects) (later : middle.Booked last more) :
    first.Booked last (effects ++ more) where
  holds := by
    intro entry member
    rw [sampled_append] at member
    rcases List.mem_append.mp member with member | member
    · exact earlier.holds entry member
    · exact later.holds entry member
  timed := by
    intro timed
    obtain ⟨middleTimed, middleDue⟩ := earlier.timed timed
    obtain ⟨lastTimed, lastDue⟩ := later.timed middleTimed
    rw [due_append, sampled_append]
    exact ⟨lastTimed, middleDue.append lastDue⟩

theorem booked_acquire (locks : WakeLocks) (now : Instant) :
    locks.Booked (locks.acquire now).2.1 (locks.acquire now).2.2 := by
  have taken := locks.primary.booked_take now
  unfold acquire
  simp only
  split
  · exact booked_of_primary ⟨taken.holds, taken.timed⟩
  · exact booked_of_primary taken

theorem booked_release (locks : WakeLocks) (now : Instant) :
    locks.Booked (locks.release now).1 (locks.release now).2 :=
  booked_of_primary (locks.primary.booked_drop now)

theorem booked_holdForAck (locks : WakeLocks) (now : Instant) :
    locks.Booked (locks.holdForAck now).2.1 (locks.holdForAck now).2.2 :=
  have taken := locks.ack.booked_take now
  booked_of_ack ⟨taken.holds, taken.timed⟩

theorem booked_releaseAll (locks : WakeLocks) (now : Instant) :
    locks.Booked (locks.releaseAll now).1 (locks.releaseAll now).2 :=
  (booked_of_primary (locks.primary.booked_clear now)).trans
    (booked_of_ack (locks.ack.booked_clear now))

/-- A timeout is sampled after the end of the hold. -/
theorem booked_onTimer_of_timedOut {locks after : WakeLocks} {timer : LockTimer} {now : Instant}
    {outstanding : UInt32} {effects : List Effect}
    (judged : locks.onTimer timer now = (.timedOut outstanding, after, effects)) :
    ∃ released, effects = released ++ [.measured (.lockTimedOut .primary)] ∧
      locks.Booked after released := by
  unfold onTimer at judged
  split at judged
  · split at judged
    · rename_i told primary released expired
      have booked := locks.primary.booked_expire timer.generation now
      rw [expired] at booked
      cases judged
      exact ⟨released, rfl, booked_of_primary booked⟩
    · simp at judged
  · split at judged <;> simp at judged

theorem booked_onTimer_of_not_timedOut {locks after : WakeLocks} {timer : LockTimer}
    {now : Instant} {expiry : LockExpiry} {effects : List Effect}
    (judged : locks.onTimer timer now = (expiry, after, effects))
    (kept : ∀ outstanding, expiry ≠ .timedOut outstanding) : locks.Booked after effects := by
  have same : locks.Booked locks [] := booked_of_primary locks.primary.booked_of_nothing
  unfold onTimer at judged
  split at judged
  · split at judged
    · cases judged
      exact absurd rfl (kept _)
    · cases judged
      exact same
  · split at judged
    · rename_i told ack released expired
      have booked := locks.ack.booked_expire timer.generation now
      rw [expired] at booked
      cases judged
      exact booked_of_ack booked
    · cases judged
      exact same

end WakeLocks

namespace Bridge

variable {χ : Type}

/-- From `before` to `after` the totals grew by what was sampled, what was done to the world was
sampled, and the fault detector was told of `signs`. -/
structure Booked (before after : Bridge χ) (signs : List Sign) : Prop where
  name : after.name = before.name
  detector : after.detector = signs.foldl FaultDetector.after before.detector
  effects : ∃ effects, after.history = before.history ++ effects ∧
    after.totals = (sampled effects).foldl Totals.enter before.totals ∧
    (sampled effects).count .lockTimeout = signs.countP Sign.isLockTimeout ∧
    (before.locks.Timed → after.locks.Timed ∧
      (due effects).Perm ((sampled effects).filter Entry.isSeen))

namespace Booked

theorem trans {first middle last : Bridge χ} {signs more : List Sign}
    (earlier : Booked first middle signs) (later : Booked middle last more) :
    Booked first last (signs ++ more) where
  name := later.name.trans earlier.name
  detector := by rw [List.foldl_append, ← earlier.detector, ← later.detector]
  effects := by
    obtain ⟨old, oldGrown, oldTotals, oldTimeouts, oldDue⟩ := earlier.effects
    obtain ⟨new, newGrown, newTotals, newTimeouts, newDue⟩ := later.effects
    refine ⟨old ++ new, ?_, ?_, ?_, ?_⟩
    · rw [newGrown, oldGrown, List.append_assoc]
    · rw [sampled_append, List.foldl_append, ← oldTotals, ← newTotals]
    · rw [sampled_append, List.count_append, List.countP_append, oldTimeouts, newTimeouts]
    · intro timed
      obtain ⟨middleTimed, middleDue⟩ := oldDue timed
      obtain ⟨lastTimed, lastDue⟩ := newDue middleTimed
      rw [due_append, sampled_append, List.filter_append]
      exact ⟨lastTimed, middleDue.append lastDue⟩

/-- A step after which the detector is told nothing more. -/
theorem andThen {first middle last : Bridge χ} {signs : List Sign}
    (earlier : Booked first middle signs) (later : Booked middle last []) :
    Booked first last signs := by
  have whole := earlier.trans later
  rwa [List.append_nil] at whole

theorem refl (bridge : Bridge χ) : Booked bridge bridge [] where
  name := rfl
  detector := rfl
  effects := ⟨[], (List.append_nil _).symm, rfl, rfl, fun timed => ⟨timed, .refl _⟩⟩

end Booked

/-! ## Small steps -/

/-- Nothing is booked, and nothing is to be booked. -/
theorem booked_of_unbooked {before after : Bridge χ} {effects : List Effect}
    (name : after.name = before.name) (detector : after.detector = before.detector)
    (totals : after.totals = before.totals) (locks : after.locks = before.locks)
    (grown : after.history = before.history ++ effects) (unbooked : Unbooked effects) :
    Booked before after [] where
  name := name
  detector := detector
  effects := by
    refine ⟨effects, grown, ?_, ?_, ?_⟩
    · rw [unbooked.sampled, totals]
      rfl
    · rw [unbooked.sampled]
      rfl
    · intro timed
      rw [unbooked.sampled, unbooked.due, locks]
      exact ⟨timed, .refl _⟩

/-- Only fields change that no book is about. -/
theorem booked_of_same {before after : Bridge χ} (name : after.name = before.name)
    (detector : after.detector = before.detector) (totals : after.totals = before.totals)
    (locks : after.locks = before.locks) (journal : after.journal = before.journal) :
    Booked before after [] := by
  have grown : after.history = before.history ++ [] := by
    rw [history, journal, List.append_nil]
    rfl
  exact booked_of_unbooked name detector totals locks grown ⟨rfl, rfl⟩

/-- Wake locks move. -/
theorem booked_of_locks {before after : Bridge χ} {effects : List Effect}
    (name : after.name = before.name) (detector : after.detector = before.detector)
    (totals : after.totals = before.totals)
    (grown : after.history = before.history ++ effects)
    (locks : before.locks.Booked after.locks effects) : Booked before after [] where
  name := name
  detector := detector
  effects := by
    have seen : (sampled effects).filter Entry.isSeen = sampled effects :=
      List.filter_eq_self.mpr fun entry member => Entry.isSeen_of_isHold (locks.holds entry member)
    refine ⟨effects, grown, ?_, ?_, ?_⟩
    · rw [Totals.enter_of_holds locks.holds, totals]
    · rw [List.countP_nil, List.count_eq_zero]
      exact fun member => absurd (locks.holds _ member) Bool.false_ne_true
    · rw [seen]
      exact locks.timed

theorem booked_schedule (bridge : Bridge χ) (timer : LockTimer) :
    Booked bridge (bridge.schedule timer) [] := by
  unfold schedule
  split <;> exact booked_of_same rfl rfl rfl rfl rfl

theorem booked_acquireLock (bridge : Bridge χ) (now : Instant) :
    Booked bridge (bridge.acquireLock now) [] := by
  have moved := bridge.locks.booked_acquire now
  unfold acquireLock
  split
  · rename_i timer locks effects acquired
    rw [acquired] at moved
    have taken : Booked bridge ({ bridge with locks := locks }.emit effects) [] :=
      booked_of_locks rfl rfl rfl (history_of_journal rfl) moved
    exact taken.trans (booked_schedule _ timer)
  · rename_i locks effects acquired
    rw [acquired] at moved
    exact booked_of_locks rfl rfl rfl (history_of_journal rfl) moved

theorem booked_releaseLock (bridge : Bridge χ) (now : Instant) :
    Booked bridge (bridge.releaseLock now) [] :=
  booked_of_locks rfl rfl rfl (history_of_journal rfl) (bridge.locks.booked_release now)

theorem booked_releaseIf (bridge : Bridge χ) (held : Bool) (now : Instant) :
    Booked bridge (bridge.releaseIf held now) [] := by
  unfold releaseIf
  split
  · exact booked_releaseLock bridge now
  · exact .refl bridge

/-- A caller is told an outcome, which is counted and sampled with the time it took. -/
theorem booked_told (bridge : Bridge χ) (kind : RequestKind) (outcome : Outcome) (latency : Span)
    (ticket : Ticket) :
    Booked bridge
      ((bridge.recordOutcome kind outcome latency).emit [.settled ticket outcome]) [] where
  name := rfl
  detector := rfl
  effects :=
    ⟨[.measured (.completed kind outcome.outcomeClass), .measured (.latency kind latency),
      .settled ticket outcome], history_of_journal rfl, rfl, rfl, fun timed => ⟨timed, .refl _⟩⟩

theorem booked_finish (bridge : Bridge χ) (attempt : Attempt) (outcome : Outcome) (now : Instant) :
    Booked bridge (bridge.finish attempt outcome now) [] :=
  (booked_releaseIf bridge attempt.holdsLock now).trans
    (booked_told _ attempt.kind outcome (attempt.latency now) attempt.ticket)

theorem booked_finishAll (bridge : Bridge χ) (attempts : List Attempt)
    (failure : RequestKind → Failure) (now : Instant) :
    Booked bridge (bridge.finishAll attempts failure now) [] := by
  induction attempts generalizing bridge with
  | nil => exact .refl bridge
  | cons attempt rest ih =>
      exact (booked_finish bridge attempt (.failed (failure attempt.kind)) now).trans (ih _)

theorem booked_measure_pending (bridge : Bridge χ) (count : Nat) :
    Booked bridge (bridge.measure (.pendingCount count)) [] :=
  booked_of_unbooked rfl rfl rfl rfl (history_emit bridge _) ⟨rfl, rfl⟩

theorem booked_publishStatus (bridge : Bridge χ) (change : Option FaultStatus) :
    Booked bridge (bridge.publishStatus change) [] := by
  cases change with
  | none => exact .refl bridge
  | some status =>
      have told : Unbooked (bridge.statusListeners.map fun listener =>
          Effect.statusTold listener status) :=
        unbooked_map (fun _ => rfl) (fun _ => rfl) bridge.statusListeners
      exact booked_of_unbooked rfl rfl rfl rfl (history_emit bridge _) ⟨told.sampled, told.due⟩

/-- The detector is told of a sign that is not the timeout of a lock. -/
theorem booked_withDetector (bridge : Bridge χ) {sign : Sign} (other : sign.isLockTimeout = false)
    {step : Option FaultStatus × FaultDetector} (told : step.2 = bridge.detector.after sign) :
    Booked bridge (bridge.withDetector step) [sign] := by
  have moved : Booked bridge { bridge with detector := step.2 } [sign] := by
    refine ⟨rfl, told, [], (List.append_nil _).symm, rfl, ?_, fun timed => ⟨timed, .refl _⟩⟩
    rw [List.countP_singleton, other]
    rfl
  exact moved.andThen (booked_publishStatus _ step.1)

/-! ## Requests -/

/-- The channel accepts an attempt, which is counted and sampled. -/
theorem booked_accepted (bridge : Bridge χ) (attempt : Attempt) (pending : PendingTable)
    (channel : χ) (now : Instant) :
    Booked bridge ((bridge.handOver attempt .accepted channel now).awaiting attempt pending)
      [] := by
  refine (booked_acquireLock bridge now).trans ?_
  refine ⟨rfl, rfl, [.handed attempt.outbound .accepted,
    .measured (.submitted attempt.kind attempt.version)], ?_, rfl, rfl, ?_⟩
  · exact history_of_journal rfl
  · exact fun timed => ⟨timed, .refl _⟩

/-- The channel does not accept an attempt: that is neither counted nor sampled. -/
theorem booked_handOver (bridge : Bridge χ) (attempt : Attempt) {reply : SendReply}
    (other : reply ≠ .accepted) (channel : χ) (now : Instant) :
    Booked bridge (bridge.handOver attempt reply channel now) [] := by
  refine (booked_acquireLock bridge now).trans ?_
  refine booked_of_unbooked rfl rfl rfl rfl (history_of_journal rfl) ?_
  cases reply with
  | accepted => exact absurd rfl other
  | unavailable | versionRefused => exact ⟨rfl, rfl⟩

theorem booked_refused (bridge : Bridge χ) (attempt : Attempt) (channel : χ) (now : Instant) :
    Booked bridge (bridge.handOver attempt .versionRefused channel now) [] :=
  booked_handOver bridge attempt (by simp) channel now

theorem booked_lowered (bridge : Bridge χ) (kind : RequestKind) (failed : Version) :
    Booked bridge (bridge.lowered kind failed) [] :=
  booked_of_same rfl rfl rfl rfl rfl

theorem booked_retrying (bridge : Bridge χ) (kind : RequestKind) (failed version : Version) :
    Booked bridge (bridge.retrying kind failed version) [] where
  name := rfl
  detector := rfl
  effects := ⟨[.measured (.fallback kind failed version)], history_of_journal rfl, rfl, rfl,
    fun timed => ⟨timed, .refl _⟩⟩

section

variable [Channel χ]

theorem booked_of_dealt {bridge after : Bridge χ} {attempt : Attempt} {now : Instant}
    (spoken : bridge.versions.current attempt.kind = some attempt.version)
    (dealt : bridge.offer attempt now = (none, after)) : Booked bridge after [] := by
  cases inserted : bridge.pending.insert? attempt.holding with
  | none =>
      rw [offer_of_not_inserted inserted] at dealt
      cases dealt
      exact (booked_acquireLock bridge now).trans (booked_of_same rfl rfl rfl rfl rfl)
  | some pending =>
      cases replied : Channel.send bridge.channel attempt.outbound with
      | mk reply channel =>
          rw [offer_of_inserted spoken inserted replied] at dealt
          cases reply with
          | accepted =>
              cases dealt
              exact booked_accepted bridge attempt pending channel now
          | unavailable reason =>
              cases dealt
              exact (booked_handOver bridge attempt (by simp) channel now).trans
                (booked_finish _ attempt.holding _ now)
          | versionRefused => simp at dealt

theorem booked_issue (bridge : Bridge χ) (attempt : Attempt) (now : Instant)
    (spoken : bridge.versions.current attempt.kind = some attempt.version) :
    Booked bridge (bridge.issue attempt now) [] := by
  fun_induction issue bridge attempt now with
  | case1 bridge attempt after dealt => exact booked_of_dealt spoken dealt
  | case2 bridge attempt refused version middle refusal after retreated =>
      obtain ⟨pending, channel, -, -, rfl, rfl, rfl⟩ := offer_eq_some spoken refusal
      obtain ⟨-, rfl⟩ := retreat_eq_none retreated
      have refused := booked_refused bridge attempt channel now
      exact (refused.trans (booked_lowered _ _ _)).trans (booked_finish _ _ _ now)
  | case3 bridge attempt refused version middle refusal next retried retreated ih =>
      obtain ⟨pending, channel, -, -, rfl, rfl, rfl⟩ := offer_eq_some spoken refusal
      obtain ⟨lower, next_eq, rfl, rfl⟩ := retreat_eq_some retreated
      have refused := booked_refused bridge attempt channel now
      have issued := ih (current_retrying next_eq)
      have retried := (refused.trans (booked_retrying _ _ _ lower)).trans issued
      exact retried.trans (booked_releaseIf _ _ now)

theorem booked_fallBack (bridge : Bridge χ) (attempt : Attempt) (failed : Version) (now : Instant) :
    Booked bridge (bridge.fallBack attempt failed now) [] := by
  unfold fallBack
  cases retreated : bridge.retreat attempt failed now with
  | mk retry after =>
      cases retry with
      | none =>
          obtain ⟨-, rfl⟩ := retreat_eq_none retreated
          exact (booked_lowered bridge attempt.kind failed).trans (booked_finish _ attempt _ now)
      | some next =>
          obtain ⟨lower, next_eq, rfl, rfl⟩ := retreat_eq_some retreated
          have issued := booked_issue (bridge.retrying attempt.kind failed lower)
            (attempt.reissue bridge.serials.take.1 lower now) now (current_retrying next_eq)
          exact ((booked_retrying bridge attempt.kind failed lower).trans issued).trans
            (booked_releaseIf _ attempt.holdsLock now)

theorem booked_submit (bridge : Bridge χ) (submission : Submission) (now : Instant) :
    Booked bridge (bridge.submit submission now) [] := by
  cases spoken : bridge.versions.current submission.kind with
  | none =>
      rw [submit_of_unspoken spoken]
      exact booked_told bridge submission.kind _ 0 submission.ticket
  | some version =>
      simp only [submit, spoken]
      exact booked_issue bridge (.ofSubmission submission version now) now spoken

/-! ## Frames from the modem -/

theorem booked_sendAck (bridge : Bridge χ) (now : Instant) :
    Booked bridge (bridge.sendAck now) [] := by
  cases reply : Channel.sendAck bridge.channel with
  | mk refusal channel =>
      cases refusal with
      | some reason =>
          rw [sendAck_of_refused reply]
          exact booked_of_unbooked rfl rfl rfl rfl (history_of_journal rfl) ⟨rfl, rfl⟩
      | none =>
          have sent : Booked bridge ({ bridge with
              channel := channel
              totals := { bridge.totals with acksSent := bridge.totals.acksSent + 1 } }.emit
                [.acknowledged true, .measured .ackSent]) [] :=
            ⟨rfl, rfl, _, history_of_journal rfl, rfl, rfl, fun timed => ⟨timed, .refl _⟩⟩
          have moved := bridge.locks.booked_holdForAck now
          simp only [sendAck, reply]
          refine (sent.andThen ?_).andThen (booked_schedule _ (bridge.locks.holdForAck now).1)
          exact booked_of_locks rfl rfl rfl (history_of_journal rfl) moved

theorem booked_sendAckIf (bridge : Bridge χ) (asked : Bool) (now : Instant) :
    Booked bridge (bridge.sendAckIf asked now) [] := by
  unfold sendAckIf
  split
  · exact booked_sendAck bridge now
  · exact .refl bridge

/-! ## Timers -/

/-- What the fault detector is told when a timer of a lock is looked at. -/
def signsOfTimer (bridge : Bridge χ) (timer : Option LockTimer) (now : Instant) : List Sign :=
  match timer with
  | none => []
  | some timer =>
    if timer.deadline ≤ now then
      match (bridge.locks.onTimer timer now).1 with
      | .timedOut _ => [.lockTimeout now]
      | .released | .stale => []
    else []

omit [Channel χ] in
theorem booked_onLockTimer (bridge : Bridge χ) {timer : LockTimer} {now : Instant}
    (due : timer.deadline ≤ now) :
    Booked bridge (bridge.onLockTimer timer now) (bridge.signsOfTimer (some timer) now) := by
  simp only [signsOfTimer, if_pos due]
  cases judged : bridge.locks.onTimer timer now with
  | mk expiry rest =>
      by_cases timedOut : ∃ outstanding, expiry = .timedOut outstanding
      · obtain ⟨outstanding, rfl⟩ := timedOut
        obtain ⟨released, effects, booked⟩ := WakeLocks.booked_onTimer_of_timedOut judged
        rw [onLockTimer_of_timedOut judged, effects]
        refine Booked.andThen ?_ (booked_publishStatus _ (bridge.detector.onLockTimeout now).1)
        have holds : (sampled released).count .lockTimeout = 0 :=
          List.count_eq_zero.mpr fun member => absurd (booked.holds _ member) Bool.false_ne_true
        have seen : (sampled released).filter Entry.isSeen = sampled released :=
          List.filter_eq_self.mpr fun entry member =>
            Entry.isSeen_of_isHold (booked.holds entry member)
        refine ⟨rfl, rfl, _, history_of_journal rfl, ?_, ?_, ?_⟩
        · rw [sampled_append, List.foldl_append, Totals.enter_of_holds booked.holds]
          rfl
        · rw [sampled_append, List.count_append, holds]
          rfl
        · intro timed
          obtain ⟨later, balance⟩ := booked.timed timed
          rw [sampled_append, due_append, List.filter_append, seen]
          exact ⟨later, balance.append (.refl _)⟩
      · have kept : ∀ outstanding, expiry ≠ .timedOut outstanding :=
          fun outstanding same => timedOut ⟨outstanding, same⟩
        have booked := WakeLocks.booked_onTimer_of_not_timedOut judged kept
        rw [onLockTimer_of_not_timedOut judged kept]
        have moved : Booked bridge ({ bridge with locks := rest.1 }.emit rest.2) [] :=
          booked_of_locks rfl rfl rfl (history_of_journal rfl) booked
        cases expiry with
        | timedOut outstanding => exact absurd rfl (kept outstanding)
        | released | stale => exact moved

omit [Channel χ] in
theorem booked_firePrimaryTimer (bridge : Bridge χ) (now : Instant) :
    Booked bridge (bridge.firePrimaryTimer now)
      (bridge.signsOfTimer bridge.primaryTimer now) := by
  unfold firePrimaryTimer
  cases bridge.primaryTimer with
  | none => exact .refl bridge
  | some timer =>
      by_cases due : timer.deadline ≤ now
      · simp only [if_pos due]
        have cleared : Booked bridge { bridge with primaryTimer := none } [] :=
          booked_of_same rfl rfl rfl rfl rfl
        exact cleared.trans (booked_onLockTimer { bridge with primaryTimer := none } due)
      · simp only [if_neg due, signsOfTimer]
        exact .refl bridge

omit [Channel χ] in
theorem booked_fireAckTimer (bridge : Bridge χ) (now : Instant) :
    Booked bridge (bridge.fireAckTimer now) (bridge.signsOfTimer bridge.ackTimer now) := by
  unfold fireAckTimer
  cases bridge.ackTimer with
  | none => exact .refl bridge
  | some timer =>
      by_cases due : timer.deadline ≤ now
      · simp only [if_pos due]
        have cleared : Booked bridge { bridge with ackTimer := none } [] :=
          booked_of_same rfl rfl rfl rfl rfl
        exact cleared.trans (booked_onLockTimer { bridge with ackTimer := none } due)
      · simp only [if_neg due, signsOfTimer]
        exact .refl bridge

/-- What the fault detector is told when all timers are looked at. -/
def signsOfTimers (bridge : Bridge χ) (now : Instant) : List Sign :=
  bridge.signsOfTimer bridge.primaryTimer now ++
    (bridge.firePrimaryTimer now).signsOfTimer (bridge.firePrimaryTimer now).ackTimer now

omit [Channel χ] in
theorem booked_fireDueTimers (bridge : Bridge χ) (now : Instant) :
    Booked bridge (bridge.fireDueTimers now) (bridge.signsOfTimers now) := by
  have fired := (booked_firePrimaryTimer bridge now).trans (booked_fireAckTimer _ now)
  refine (fired.andThen ?_).andThen (booked_finishAll _ _ .timedOut now)
  exact booked_of_same rfl rfl rfl rfl rfl

/-! ## Calls -/

/-- What the fault detector is told in a call that is no batch. -/
def signsIn (bridge : Bridge χ) : Call χ → List Sign
  | .timers now => bridge.signsOfTimers now
  | .event (.answer header _) now =>
    if bridge.collision.isSome then []
    else
      match bridge.pending.find? header.serial with
      | none => []
      | some attempt => [.answered attempt.kind header.code now]
  | .event .channelRestarted _ => if bridge.collision.isSome then [] else [.restarted]
  | _ => []

/-- What the fault detector is told in calls that are no batches. -/
def signsOfSteps (bridge : Bridge χ) : List (Call χ) → List Sign
  | [] => []
  | step :: rest => bridge.signsIn step ++ (bridge.call step).signsOfSteps rest

/-- What the fault detector is told in a run. -/
def signs (bridge : Bridge χ) (calls : List (Call χ)) : List Sign :=
  bridge.signsOfSteps (calls.flatMap Call.steps)

theorem booked_answered (bridge : Bridge χ) (attempt : Attempt) (header : AnswerHeader)
    (now : Instant) :
    Booked bridge (bridge.answered attempt header now)
      [.answered attempt.kind header.code now] := by
  have taken : Booked bridge { bridge with pending := bridge.pending.erase header.serial } [] :=
    booked_of_same rfl rfl rfl rfl rfl
  have received := taken.andThen (booked_sendAckIf _ header.type.ackExpected now)
  exact received.trans (booked_withDetector _ rfl rfl)

theorem booked_onAnswer (bridge : Bridge χ) (sound : bridge.collision = none)
    (header : AnswerHeader) (payload : Payload) (now : Instant) :
    Booked bridge (bridge.onAnswer header payload now)
      (bridge.signsIn (.event (.answer header payload) now)) := by
  simp only [signsIn, sound, Option.isSome_none, Bool.false_eq_true, if_false]
  cases waiting : bridge.pending.find? header.serial with
  | none =>
      rw [onAnswer_of_stale waiting]
      exact ⟨rfl, rfl, [.measured .staleAnswer], history_of_journal rfl, rfl, rfl,
        fun timed => ⟨timed, .refl _⟩⟩
  | some attempt =>
      have answered := booked_answered bridge attempt header now
      rw [onAnswer_of_waiting waiting]
      split
      · exact answered.andThen (booked_fallBack _ attempt attempt.version now)
      · split
        · exact answered.andThen (booked_finish _ attempt _ now)
        · exact answered.andThen (booked_finish _ attempt _ now)

theorem booked_onIndication (bridge : Bridge χ) (indication : Indication) (now : Instant) :
    Booked bridge (bridge.onIndication indication now) [] := by
  have counted : Booked bridge ({ bridge with totals := { bridge.totals with
      indications := bridge.totals.indications + 1 } }.measure .indicationReceived) [] :=
    ⟨rfl, rfl, [.measured .indicationReceived], history_of_journal rfl, rfl, rfl,
      fun timed => ⟨timed, .refl _⟩⟩
  refine (counted.andThen (booked_sendAckIf _ indication.type.ackExpected now)).andThen ?_
  exact booked_of_unbooked rfl rfl rfl rfl (history_emit _ _)
    (unbooked_map (fun _ => rfl) (fun _ => rfl) _)

omit [Channel χ] in
theorem booked_failAll (bridge : Bridge χ) (now : Instant) :
    Booked bridge (bridge.failAll now) [] := by
  have emptied : Booked bridge { bridge with pending := .empty } [] :=
    booked_of_same rfl rfl rfl rfl rfl
  exact emptied.andThen (booked_finishAll _ _ .channelUnavailable now)

omit [Channel χ] in
theorem booked_shutdown (bridge : Bridge χ) (now : Instant) :
    Booked bridge (bridge.shutdown now) [] := by
  cases running : bridge.running with
  | false =>
      rw [shutdown_of_stopped running]
      exact .refl bridge
  | true =>
      simp only [shutdown, running, if_true]
      refine (booked_failAll bridge now).andThen ?_
      exact booked_of_locks rfl rfl rfl (history_of_journal rfl)
        ((bridge.failAll now).locks.booked_releaseAll now)

theorem booked_react (bridge : Bridge χ) (sound : bridge.collision = none) (event : Event)
    (now : Instant) :
    Booked bridge (bridge.react now event) (bridge.signsIn (.event event now)) := by
  cases event with
  | submit submission => exact booked_submit bridge submission now
  | answer header payload => exact booked_onAnswer bridge sound header payload now
  | requestAck serial => exact booked_of_same rfl rfl rfl rfl rfl
  | indication indication => exact booked_onIndication bridge indication now
  | channelLost => exact booked_failAll bridge now
  | channelRestarted =>
      simp only [signsIn, sound, Option.isSome_none, Bool.false_eq_true, if_false]
      exact booked_withDetector bridge rfl rfl
  | listenIndications listener | listenStatus listener => exact booked_of_same rfl rfl rfl rfl rfl
  | shutdown => exact booked_shutdown bridge now

theorem booked_call (bridge : Bridge χ) {call : Call χ}
    (single : ∀ events now, call ≠ .batch events now) :
    Booked bridge (bridge.call call) (bridge.signsIn call) := by
  cases call with
  | batch events now => exact absurd rfl (single events now)
  | timers now => exact booked_fireDueTimers bridge now
  | event event now =>
      cases collided : bridge.collision with
      | none =>
          rw [call, handle_of_sound collided]
          exact booked_react bridge collided event now
      | some attempt =>
          have isSome : bridge.collision.isSome = true := by rw [collided]; rfl
          have told : bridge.signsIn (.event event now) = [] := by
            cases event <;> simp [signsIn, isSome]
          rw [call, handle, if_pos isSome, told]
          exact .refl bridge
  | sampled => exact booked_measure_pending bridge bridge.pending.size
  | serialTaken | channelChanged | indicationListenerLost | statusListenerLost =>
      exact booked_of_same rfl rfl rfl rfl rfl

theorem booked_steps (bridge : Bridge χ) {steps : List (Call χ)}
    (single : ∀ step ∈ steps, ∀ events now, step ≠ .batch events now) :
    Booked bridge (bridge.run steps) (bridge.signsOfSteps steps) := by
  induction steps generalizing bridge with
  | nil => exact .refl bridge
  | cons step rest ih =>
      have first := booked_call bridge (single step List.mem_cons_self)
      exact first.trans (ih _ fun later member => single later (List.mem_cons_of_mem step member))

/-- In every run the books are kept. -/
theorem booked_run (bridge : Bridge χ) (calls : List (Call χ)) :
    Booked bridge (bridge.run calls) (bridge.signs calls) := by
  rw [← run_steps]
  exact booked_steps bridge fun _ member => not_batch_of_mem_run member

end

end Bridge

end ModemLink
