/-
Module: ModemLink.Proofs.Calm
Purpose: What calls start at their instant, and when nothing is due.
Main exports:
  WakeLocks.make, WakeLocks.Starts, Timely, timely_react, timely_fireDueTimers, make_run, Calm,
  calm_fireDueTimers, fireDueTimers_of_idle, fireDueTimers_of_calm
-/
import ModemLink.Proofs.Deadlines
import ModemLink.Proofs.Expiry

namespace ModemLink

/-!
Whatever a call starts, it starts at its own instant: a timer of a lock runs from then on, and so
does the wait of an attempt.  `Timely` says so of every step, also where serials collide.  As the
spans of the locks are positive, nothing that is started at an instant is due at it: once the due
timers have fired, the bridge stays calm for as long as the instant lasts.
-/

/-! ## The spans of the locks -/

namespace WakeLock

/-- What never changes about a lock: which one it is, and how long its timers run. -/
def make (lock : WakeLock) : LockId × Span :=
  (lock.id, lock.ceiling)

variable (lock : WakeLock) (now : Instant)

@[simp] theorem make_take : (lock.take now).1.make = lock.make := by
  simp [make, id_take, ceiling_take]

@[simp] theorem make_arm : (lock.arm now).2.make = lock.make := rfl

@[simp] theorem make_giveBack : (lock.giveBack now).1.make = lock.make := rfl

@[simp] theorem make_drop : (lock.drop now).1.make = lock.make := by
  simp [make, id_drop, ceiling_drop]

@[simp] theorem make_clear : (lock.clear now).1.make = lock.make := by
  simp [make, id_clear, ceiling_clear]

theorem make_expire (generation : UInt64) : (lock.expire generation now).2.1.make = lock.make := by
  unfold expire
  split <;> simp

end WakeLock

namespace WakeLocks

/-- What never changes about the two locks. -/
def make (locks : WakeLocks) : (LockId × Span) × LockId × Span :=
  (locks.primary.make, locks.ack.make)

/-- The timer was started at an instant, and runs for the span of one of the locks. -/
def Starts (locks : WakeLocks) (now : Instant) (timer : LockTimer) : Prop :=
  timer.deadline = now + locks.primary.ceiling ∨ timer.deadline = now + locks.ack.ceiling

/-- Both locks give some time. -/
structure GiveTime (locks : WakeLocks) : Prop where
  primary : 0 < locks.primary.ceiling
  ack : 0 < locks.ack.ceiling

variable {locks others : WakeLocks} {now : Instant} {timer : LockTimer}

theorem ceilings_of_make (same : locks.make = others.make) :
    locks.primary.ceiling = others.primary.ceiling ∧ locks.ack.ceiling = others.ack.ceiling :=
  ⟨congrArg (·.1.2) same, congrArg (·.2.2) same⟩

theorem ids_of_make (same : locks.make = others.make) :
    locks.primary.id = others.primary.id ∧ locks.ack.id = others.ack.id :=
  ⟨congrArg (·.1.1) same, congrArg (·.2.1) same⟩

theorem Starts.of_make (starts : locks.Starts now timer) (same : locks.make = others.make) :
    others.Starts now timer := by
  obtain ⟨primary, ack⟩ := ceilings_of_make same
  rwa [Starts, primary, ack] at starts

theorem GiveTime.of_make (time : locks.GiveTime) (same : locks.make = others.make) :
    others.GiveTime := by
  obtain ⟨primary, ack⟩ := ceilings_of_make same
  exact ⟨primary ▸ time.primary, ack ▸ time.ack⟩

theorem GiveTime.lt_deadline (time : locks.GiveTime) (starts : locks.Starts now timer) :
    now < timer.deadline := by
  rcases starts with due | due
  · rw [due]
    exact Nat.lt_add_of_pos_right time.primary
  · rw [due]
    exact Nat.lt_add_of_pos_right time.ack

variable (locks) (now)

@[simp] theorem make_acquire : (locks.acquire now).2.1.make = locks.make := by
  simp only [acquire]
  split <;> simp [make]

theorem starts_acquire (taken : (locks.acquire now).1 = some timer) : locks.Starts now timer := by
  simp only [acquire, WakeLock.arm, WakeLock.ceiling_take] at taken
  split at taken
  · cases taken
    exact Or.inl rfl
  · simp at taken

@[simp] theorem make_release : (locks.release now).1.make = locks.make := by
  simp [release, make]

@[simp] theorem make_holdForAck : (locks.holdForAck now).2.1.make = locks.make := by
  simp [holdForAck, make]

theorem starts_holdForAck : locks.Starts now (locks.holdForAck now).1 := by
  simp [holdForAck, Starts, WakeLock.arm, WakeLock.ceiling_take]

@[simp] theorem make_releaseAll : (locks.releaseAll now).1.make = locks.make := by
  simp [releaseAll, make]

theorem make_onTimer (timer : LockTimer) : (locks.onTimer timer now).2.1.make = locks.make := by
  have primary := locks.primary.make_expire now timer.generation
  have ack := locks.ack.make_expire now timer.generation
  unfold onTimer
  split <;> split <;> simp_all [make]

end WakeLocks

namespace Bridge

variable {χ : Type}

/-! ## Small steps -/

/-- Between two bridges something was done at `now`: a live timer is as before or was started then,
and what waits did so before or was issued then. -/
structure Timely (now : Instant) (before after : Bridge χ) : Prop where
  make : after.locks.make = before.locks.make
  maxAge : after.maxAge = before.maxAge
  primary : ∀ timer, after.primaryTimer = some timer →
    before.primaryTimer = some timer ∨ before.locks.Starts now timer
  ack : ∀ timer, after.ackTimer = some timer →
    before.ackTimer = some timer ∨ before.locks.Starts now timer
  waiting : ∀ attempt ∈ after.pending.attempts, attempt.issuedAt = now ∨
    ∃ earlier ∈ before.pending.attempts, earlier.issuedAt = attempt.issuedAt

namespace Timely

variable {now : Instant} {first middle last before after : Bridge χ}

theorem trans (earlier : Timely now first middle) (later : Timely now middle last) :
    Timely now first last := by
  constructor
  · exact later.make.trans earlier.make
  · exact later.maxAge.trans earlier.maxAge
  · intro timer live
    rcases later.primary timer live with kept | starts
    · exact earlier.primary timer kept
    · exact Or.inr (starts.of_make earlier.make)
  · intro timer live
    rcases later.ack timer live with kept | starts
    · exact earlier.ack timer kept
    · exact Or.inr (starts.of_make earlier.make)
  · intro attempt member
    rcases later.waiting attempt member with issued | ⟨waited, there, same⟩
    · exact Or.inl issued
    · rw [← same]
      exact earlier.waiting waited there

/-- Nothing is issued and no timer starts: marks of attempts may change, and timers may end. -/
theorem of_ended (make : after.locks.make = before.locks.make)
    (maxAge : after.maxAge = before.maxAge) (bare : after.pending.bare = before.pending.bare)
    (primary : after.primaryTimer = before.primaryTimer ∨ after.primaryTimer = none)
    (ack : after.ackTimer = before.ackTimer ∨ after.ackTimer = none) :
    Timely now before after := by
  constructor
  · exact make
  · exact maxAge
  · intro timer live
    rcases primary with same | ended
    · exact Or.inl (same ▸ live)
    · simp [ended] at live
  · intro timer live
    rcases ack with same | ended
    · exact Or.inl (same ▸ live)
    · simp [ended] at live
  · intro attempt member
    obtain ⟨earlier, there, same⟩ := PendingTable.mem_of_bare bare member
    exact Or.inr ⟨earlier, there, Attempt.issuedAt_of_bare same⟩

theorem of_same (requests : SameRequests before after) (holds : SameHolds before after) :
    Timely now before after :=
  .of_ended (congrArg WakeLocks.make holds.locks) requests.maxAge
    (congrArg PendingTable.bare requests.pending) (Or.inl holds.primaryTimer)
    (Or.inl holds.ackTimer)

theorem refl (bridge : Bridge χ) : Timely now bridge bridge :=
  .of_ended rfl rfl rfl (Or.inl rfl) (Or.inl rfl)

/-- The table changes, and what waits in the new one was issued at `now` or waited before. -/
theorem withPending (bridge : Bridge χ) {pending : PendingTable}
    (waiting : ∀ attempt ∈ pending.attempts,
      attempt.issuedAt = now ∨ attempt ∈ bridge.pending.attempts) :
    Timely now bridge { bridge with pending := pending } := by
  constructor
  · rfl
  · rfl
  · exact fun timer live => Or.inl live
  · exact fun timer live => Or.inl live
  · intro attempt member
    rcases waiting attempt member with issued | waited
    · exact Or.inl issued
    · exact Or.inr ⟨attempt, waited, rfl⟩

end Timely

theorem timely_schedule (bridge : Bridge χ) {now : Instant} {timer : LockTimer}
    (starts : bridge.locks.Starts now timer) : Timely now bridge (bridge.schedule timer) := by
  have same := sameRequests_schedule bridge timer
  have unchanged : Timely now bridge bridge := .refl bridge
  have waiting := unchanged.waiting
  have started : ∀ live, some timer = some live → bridge.locks.Starts now live := by
    rintro live ⟨⟩
    exact starts
  rw [← same.pending] at waiting
  cases own : timer.lock with
  | primary =>
      rw [schedule_primary bridge own] at waiting ⊢
      exact ⟨rfl, rfl, fun live same => Or.inr (started live same), fun _ live => Or.inl live,
        waiting⟩
  | ack =>
      rw [schedule_ack bridge own] at waiting ⊢
      exact ⟨rfl, rfl, fun _ live => Or.inl live, fun live same => Or.inr (started live same),
        waiting⟩

theorem timely_acquireLock (bridge : Bridge χ) (now : Instant) :
    Timely now bridge (bridge.acquireLock now) := by
  have make := bridge.locks.make_acquire now
  have starts : ∀ timer, (bridge.locks.acquire now).1 = some timer →
      bridge.locks.Starts now timer := fun _ => bridge.locks.starts_acquire now
  unfold acquireLock
  cases acquired : bridge.locks.acquire now with
  | mk started rest =>
      rw [acquired] at make starts
      have taken : Timely now bridge ({ bridge with locks := rest.1 }.emit rest.2) :=
        .of_ended make rfl rfl (Or.inl rfl) (Or.inl rfl)
      cases started with
      | none => exact taken
      | some timer => exact taken.trans (timely_schedule _ ((starts timer rfl).of_make make.symm))

theorem timely_releaseLock (bridge : Bridge χ) (now : Instant) :
    Timely now bridge (bridge.releaseLock now) := by
  have ended : (bridge.releaseLock now).primaryTimer = bridge.primaryTimer ∨
      (bridge.releaseLock now).primaryTimer = none := by
    simp only [releaseLock, emit]
    split <;> simp
  exact .of_ended (bridge.locks.make_release now) rfl rfl ended (Or.inl rfl)

theorem timely_releaseIf (bridge : Bridge χ) (held : Bool) (now : Instant) :
    Timely now bridge (bridge.releaseIf held now) := by
  cases held with
  | false => exact .refl bridge
  | true => exact timely_releaseLock bridge now

theorem timely_finish (bridge : Bridge χ) (attempt : Attempt) (outcome : Outcome)
    (now : Instant) : Timely now bridge (bridge.finish attempt outcome now) := by
  apply (timely_releaseIf bridge attempt.holdsLock now).trans
  exact .of_ended rfl rfl rfl (Or.inl rfl) (Or.inl rfl)

theorem timely_finishAll (bridge : Bridge χ) (attempts : List Attempt)
    (failure : RequestKind → Failure) (now : Instant) :
    Timely now bridge (bridge.finishAll attempts failure now) := by
  induction attempts generalizing bridge with
  | nil => exact .refl bridge
  | cons attempt rest ih =>
      exact (timely_finish bridge attempt (.failed (failure attempt.kind)) now).trans (ih _)

theorem timely_withDetector (bridge : Bridge χ) (step : Option FaultStatus × FaultDetector)
    (now : Instant) : Timely now bridge (bridge.withDetector step) :=
  .of_same (sameRequests_withDetector bridge step) (sameHolds_withDetector bridge step)

/-! ## Timers, losses and the end -/

theorem timely_onLockTimer (bridge : Bridge χ) (timer : LockTimer) (now : Instant) :
    Timely now bridge (bridge.onLockTimer timer now) := by
  have make := bridge.locks.make_onTimer now timer
  cases judged : bridge.locks.onTimer timer now with
  | mk expiry rest =>
      rw [judged] at make
      cases expiry with
      | timedOut outstanding =>
          rw [onLockTimer_of_timedOut judged]
          refine .trans ?_ (timely_withDetector _ _ now)
          exact .of_ended make rfl (PendingTable.bare_detachLocks _) (Or.inl rfl) (Or.inl rfl)
      | stale | released =>
          rw [onLockTimer_of_not_timedOut judged (by simp)]
          exact .of_ended make rfl rfl (Or.inl rfl) (Or.inl rfl)

theorem timely_firePrimaryTimer (bridge : Bridge χ) (now : Instant) :
    Timely now bridge (bridge.firePrimaryTimer now) := by
  unfold firePrimaryTimer
  split
  · exact .refl bridge
  · split
    · refine .trans ?_ (timely_onLockTimer _ _ now)
      exact .of_ended rfl rfl rfl (Or.inr rfl) (Or.inl rfl)
    · exact .refl bridge

theorem timely_fireAckTimer (bridge : Bridge χ) (now : Instant) :
    Timely now bridge (bridge.fireAckTimer now) := by
  unfold fireAckTimer
  split
  · exact .refl bridge
  · split
    · refine .trans ?_ (timely_onLockTimer _ _ now)
      exact .of_ended rfl rfl rfl (Or.inl rfl) (Or.inr rfl)
    · exact .refl bridge

theorem timely_ageOut (bridge : Bridge χ) (now : Instant) :
    Timely now bridge (bridge.ageOut now) := by
  refine (Timely.withPending bridge ?_).trans (timely_finishAll _ _ _ now)
  intro attempt member
  exact Or.inr (List.mem_filter.mp member).1

theorem timely_fireDueTimers (bridge : Bridge χ) (now : Instant) :
    Timely now bridge (bridge.fireDueTimers now) :=
  ((timely_firePrimaryTimer bridge now).trans (timely_fireAckTimer _ now)).trans
    (timely_ageOut _ now)

theorem timely_failAll (bridge : Bridge χ) (now : Instant) :
    Timely now bridge (bridge.failAll now) := by
  refine (Timely.withPending bridge ?_).trans (timely_finishAll _ _ _ now)
  intro attempt member
  exact absurd member List.not_mem_nil

theorem timely_shutdown (bridge : Bridge χ) (now : Instant) :
    Timely now bridge (bridge.shutdown now) := by
  cases running : bridge.running with
  | false =>
      rw [shutdown_of_stopped running]
      exact .refl bridge
  | true =>
      apply (timely_failAll bridge now).trans
      simp only [shutdown, running, if_true]
      have make := (bridge.failAll now).locks.make_releaseAll now
      exact .of_ended make rfl rfl (Or.inr rfl) (Or.inr rfl)

section

variable [Channel χ]

/-! ## Requests -/

omit [Channel χ] in
theorem timely_handOver (bridge : Bridge χ) (attempt : Attempt) (reply : SendReply) (channel : χ)
    (now : Instant) : Timely now bridge (bridge.handOver attempt reply channel now) := by
  apply (timely_acquireLock bridge now).trans
  exact .of_ended rfl rfl rfl (Or.inl rfl) (Or.inl rfl)

/-- An attempt that is issued at `now` waits in the table in the end, or leaves no trace in it. -/
theorem timely_offer {bridge : Bridge χ} {attempt : Attempt} {now : Instant}
    (spoken : bridge.versions.current attempt.kind = some attempt.version)
    (issued : attempt.issuedAt = now) : Timely now bridge (bridge.offer attempt now).2 := by
  cases inserted : bridge.pending.insert? attempt.holding with
  | none =>
      rw [offer_of_not_inserted inserted]
      apply (timely_acquireLock bridge now).trans
      exact .of_ended rfl rfl rfl (Or.inl rfl) (Or.inl rfl)
  | some pending =>
      cases replied : Channel.send bridge.channel attempt.outbound with
      | mk reply channel =>
          rw [offer_of_inserted spoken inserted replied]
          have handed := timely_handOver bridge attempt reply channel now
          cases reply with
          | accepted =>
              have put : Timely now (bridge.handOver attempt .accepted channel now)
                  { bridge.handOver attempt .accepted channel now with pending := pending } := by
                apply Timely.withPending
                intro waiting member
                rw [PendingTable.attempts_insert? inserted] at member
                rw [pending_handOver]
                rcases List.mem_cons.mp member with rfl | earlier
                · exact Or.inl issued
                · exact Or.inr earlier
              apply (handed.trans put).trans
              exact .of_ended rfl rfl rfl (Or.inl rfl) (Or.inl rfl)
          | unavailable reason => exact handed.trans (timely_finish _ _ _ now)
          | versionRefused => exact handed

theorem timely_issue (bridge : Bridge χ) {attempt : Attempt} {now : Instant}
    (spoken : bridge.versions.current attempt.kind = some attempt.version)
    (issued : attempt.issuedAt = now) : Timely now bridge (bridge.issue attempt now) := by
  fun_induction issue bridge attempt now with
  | case1 bridge attempt after dealt =>
      have offered := timely_offer spoken issued
      rwa [dealt] at offered
  | case2 bridge attempt refused version middle refusal after retreated =>
      have offered := timely_offer spoken issued
      rw [refusal] at offered
      obtain ⟨lowest, rfl⟩ := retreat_eq_none retreated
      apply offered.trans
      refine .trans ?_ (timely_finish _ _ _ now)
      exact .of_ended rfl rfl rfl (Or.inl rfl) (Or.inl rfl)
  | case3 bridge attempt refused version middle refusal next retried retreated ih =>
      have offered := timely_offer spoken issued
      rw [refusal] at offered
      obtain ⟨lower, next_eq, rfl, rfl⟩ := retreat_eq_some retreated
      have onward := ih (current_retrying next_eq) rfl
      apply offered.trans
      refine .trans ?_ (onward.trans (timely_releaseIf _ _ now))
      exact .of_ended rfl rfl rfl (Or.inl rfl) (Or.inl rfl)

theorem timely_fallBack (bridge : Bridge χ) (attempt : Attempt) (failed : Version)
    (now : Instant) : Timely now bridge (bridge.fallBack attempt failed now) := by
  unfold fallBack
  cases retreated : bridge.retreat attempt failed now with
  | mk retry after =>
      cases retry with
      | none =>
          obtain ⟨lowest, rfl⟩ := retreat_eq_none retreated
          refine .trans ?_ (timely_finish _ _ _ now)
          exact .of_ended rfl rfl rfl (Or.inl rfl) (Or.inl rfl)
      | some next =>
          obtain ⟨lower, next_eq, rfl, rfl⟩ := retreat_eq_some retreated
          have issued : Timely now (bridge.retrying attempt.kind failed lower)
              ((bridge.retrying attempt.kind failed lower).issue
                (attempt.reissue bridge.serials.take.1 lower now) now) :=
            timely_issue _ (current_retrying next_eq) rfl
          refine .trans ?_ (issued.trans (timely_releaseIf _ _ now))
          exact .of_ended rfl rfl rfl (Or.inl rfl) (Or.inl rfl)

theorem timely_submit (bridge : Bridge χ) (submission : Submission) (now : Instant) :
    Timely now bridge (bridge.submit submission now) := by
  cases spoken : bridge.versions.current submission.kind with
  | none =>
      rw [submit_of_unspoken spoken]
      exact .of_ended rfl rfl rfl (Or.inl rfl) (Or.inl rfl)
  | some version =>
      simp only [submit, spoken]
      exact timely_issue bridge spoken rfl

/-! ## Frames -/

theorem timely_sendAck (bridge : Bridge χ) (now : Instant) :
    Timely now bridge (bridge.sendAck now) := by
  cases reply : Channel.sendAck bridge.channel with
  | mk refusal channel =>
      cases refusal with
      | some reason =>
          rw [sendAck_of_refused reply]
          exact .of_ended rfl rfl rfl (Or.inl rfl) (Or.inl rfl)
      | none =>
          rw [sendAck_of_accepted reply]
          have make := bridge.locks.make_holdForAck now
          have starts := bridge.locks.starts_holdForAck now
          refine .trans ?_ (timely_schedule _ (starts.of_make make.symm))
          exact .of_ended make rfl rfl (Or.inl rfl) (Or.inl rfl)

theorem timely_sendAckIf (bridge : Bridge χ) (asked : Bool) (now : Instant) :
    Timely now bridge (bridge.sendAckIf asked now) := by
  cases asked with
  | false => exact .refl bridge
  | true => exact timely_sendAck bridge now

theorem timely_onAnswer (bridge : Bridge χ) (header : AnswerHeader) (payload : Payload)
    (now : Instant) : Timely now bridge (bridge.onAnswer header payload now) := by
  cases waiting : bridge.pending.find? header.serial with
  | none =>
      rw [onAnswer_of_stale waiting]
      exact .of_ended rfl rfl rfl (Or.inl rfl) (Or.inl rfl)
  | some attempt =>
      have removed : Timely now bridge
          { bridge with pending := bridge.pending.erase header.serial } := by
        apply Timely.withPending
        intro left member
        exact Or.inr (List.mem_filter.mp member).1
      have received := removed.trans (timely_sendAckIf _ header.type.ackExpected now)
      have answered : Timely now bridge (bridge.answered attempt header now) :=
        received.trans (timely_withDetector _ _ now)
      rw [onAnswer_of_waiting waiting]
      split
      · exact answered.trans (timely_fallBack _ attempt _ now)
      · split <;> exact answered.trans (timely_finish _ attempt _ now)

theorem timely_onIndication (bridge : Bridge χ) (indication : Indication) (now : Instant) :
    Timely now bridge (bridge.onIndication indication now) := by
  have counted : Timely now bridge ({ bridge with totals := { bridge.totals with
      indications := bridge.totals.indications + 1 } }.measure .indicationReceived) :=
    .of_ended rfl rfl rfl (Or.inl rfl) (Or.inl rfl)
  apply (counted.trans (timely_sendAckIf _ indication.type.ackExpected now)).trans
  exact .of_ended rfl rfl rfl (Or.inl rfl) (Or.inl rfl)

/-! ## Calls -/

theorem timely_react (bridge : Bridge χ) (now : Instant) (event : Event) :
    Timely now bridge (bridge.react now event) := by
  cases event with
  | submit submission => exact timely_submit bridge submission now
  | answer header payload => exact timely_onAnswer bridge header payload now
  | requestAck serial =>
      exact .of_ended rfl rfl (PendingTable.bare_acknowledge _ serial) (Or.inl rfl) (Or.inl rfl)
  | indication indication => exact timely_onIndication bridge indication now
  | channelLost => exact timely_failAll bridge now
  | channelRestarted => exact timely_withDetector bridge _ now
  | listenIndications | listenStatus => exact .of_ended rfl rfl rfl (Or.inl rfl) (Or.inl rfl)
  | shutdown => exact timely_shutdown bridge now

theorem timely_handle (bridge : Bridge χ) (now : Instant) (event : Event) :
    Timely now bridge (bridge.handle now event) := by
  unfold handle
  split
  · exact .refl bridge
  · exact timely_react bridge now event

theorem timely_handleEach (bridge : Bridge χ) (now : Instant) (events : List Event) :
    Timely now bridge (bridge.handleEach now events) := by
  induction events generalizing bridge with
  | nil => exact .refl bridge
  | cons event rest ih => exact (timely_handle bridge now event).trans (ih _)

/-- No call makes other locks of the locks. -/
theorem make_call (bridge : Bridge χ) (call : Call χ) :
    (bridge.call call).locks.make = bridge.locks.make := by
  cases call with
  | batch events now =>
      have fired := timely_fireDueTimers bridge now
      exact (timely_handleEach _ now (Event.inPhaseOrder events)).make.trans fired.make
  | timers now => exact (timely_fireDueTimers bridge now).make
  | event event now => exact (timely_handle bridge now event).make
  | sampled | serialTaken | channelChanged | indicationListenerLost | statusListenerLost => rfl

theorem make_run (bridge : Bridge χ) (calls : List (Call χ)) :
    (bridge.run calls).locks.make = bridge.locks.make := by
  induction calls generalizing bridge with
  | nil => rfl
  | cons first rest ih => exact (ih _).trans (make_call bridge first)

/-- In every run under settings that make sense, both locks give time. -/
theorem giveTime_run {config : BridgeConfig} (valid : config.validate = .ok ())
    (serials : SerialSource) (channel : χ) (calls : List (Call χ)) :
    ((new config serials channel).run calls).locks.GiveTime := by
  obtain ⟨timeout, hold⟩ := spans_of_valid valid
  have start : (new config serials channel).locks.GiveTime := ⟨timeout, hold⟩
  exact start.of_make (make_run _ calls).symm

end

/-! ## Calm bridges -/

/-- Nothing is due at an instant, and what is started at it will not be. -/
structure Calm (bridge : Bridge χ) (now : Instant) : Prop where
  time : bridge.locks.GiveTime
  primary : ∀ timer, bridge.primaryTimer = some timer → now < timer.deadline
  ack : ∀ timer, bridge.ackTimer = some timer → now < timer.deadline
  young : ∀ attempt ∈ bridge.pending.attempts, now ≤ attempt.issuedAt + bridge.maxAge

/-- A calm bridge stays calm, whatever is done at the instant. -/
theorem Calm.after {before after : Bridge χ} {now : Instant} (calm : before.Calm now)
    (timely : Timely now before after) : after.Calm now := by
  constructor
  · exact calm.time.of_make timely.make.symm
  · intro timer live
    rcases timely.primary timer live with kept | starts
    · exact calm.primary timer kept
    · exact calm.time.lt_deadline starts
  · intro timer live
    rcases timely.ack timer live with kept | starts
    · exact calm.ack timer kept
    · exact calm.time.lt_deadline starts
  · intro attempt member
    rw [timely.maxAge]
    rcases timely.waiting attempt member with issued | ⟨earlier, there, same⟩
    · rw [issued]
      exact Nat.le_add_right now before.maxAge
    · rw [← same]
      exact calm.young earlier there

theorem lt_deadline_firePrimaryTimer {bridge : Bridge χ} {now : Instant}
    (time : bridge.locks.GiveTime) (timer : LockTimer)
    (live : (bridge.firePrimaryTimer now).primaryTimer = some timer) : now < timer.deadline := by
  cases started : bridge.primaryTimer with
  | none =>
      simp [firePrimaryTimer, started] at live
  | some first =>
      simp only [firePrimaryTimer, started] at live
      split at live
      · rcases (timely_onLockTimer _ first now).primary timer live with none | starts
        · simp at none
        · exact time.lt_deadline starts
      · rename_i early
        rw [started] at live
        cases live
        exact Nat.lt_of_not_le early

theorem lt_deadline_fireAckTimer {bridge : Bridge χ} {now : Instant}
    (time : bridge.locks.GiveTime) (timer : LockTimer)
    (live : (bridge.fireAckTimer now).ackTimer = some timer) : now < timer.deadline := by
  cases started : bridge.ackTimer with
  | none =>
      simp [fireAckTimer, started] at live
  | some first =>
      simp only [fireAckTimer, started] at live
      split at live
      · rcases (timely_onLockTimer _ first now).ack timer live with none | starts
        · simp at none
        · exact time.lt_deadline starts
      · rename_i early
        rw [started] at live
        cases live
        exact Nat.lt_of_not_le early

/-- Once the due timers have fired nothing is due. -/
theorem calm_fireDueTimers {bridge : Bridge χ} (time : bridge.locks.GiveTime) (now : Instant) :
    (bridge.fireDueTimers now).Calm now := by
  have first := timely_firePrimaryTimer bridge now
  have second := timely_fireAckTimer (bridge.firePrimaryTimer now) now
  have third := timely_ageOut ((bridge.firePrimaryTimer now).fireAckTimer now) now
  have middle := time.of_make first.make.symm
  have last := middle.of_make second.make.symm
  constructor
  · exact last.of_make third.make.symm
  · intro timer live
    rcases (second.trans third).primary timer live with kept | starts
    · exact lt_deadline_firePrimaryTimer time timer kept
    · exact middle.lt_deadline starts
  · intro timer live
    rcases third.ack timer live with kept | starts
    · exact lt_deadline_fireAckTimer middle timer kept
    · exact last.lt_deadline starts
  · intro attempt member
    obtain ⟨earlier, there, bare, young⟩ := mem_fireDueTimers member
    rw [(timely_fireDueTimers bridge now).maxAge]
    exact young

/-- Where nothing is due the timers do nothing. -/
theorem fireDueTimers_of_idle {bridge : Bridge χ} {now : Instant}
    (primary : ∀ timer, bridge.primaryTimer = some timer → now < timer.deadline)
    (ack : ∀ timer, bridge.ackTimer = some timer → now < timer.deadline)
    (young : ∀ attempt ∈ bridge.pending.attempts, now ≤ attempt.issuedAt + bridge.maxAge) :
    bridge.fireDueTimers now = bridge := by
  have primary : bridge.firePrimaryTimer now = bridge := by
    cases live : bridge.primaryTimer with
    | none => simp [firePrimaryTimer, live]
    | some timer => simp [firePrimaryTimer, live, Nat.not_le_of_lt (primary timer live)]
  have ack : bridge.fireAckTimer now = bridge := by
    cases live : bridge.ackTimer with
    | none => simp [fireAckTimer, live]
    | some timer => simp [fireAckTimer, live, Nat.not_le_of_lt (ack timer live)]
  have nobody : bridge.pending.ageOut now bridge.maxAge = ([], bridge.pending) := by
    apply PendingTable.ageOut_of_young
    intro attempt member
    simp [PendingTable.isExpired_eq, young attempt member]
  rw [fireDueTimers, primary, ack, ageOut, nobody]
  rfl

theorem fireDueTimers_of_calm {bridge : Bridge χ} {now : Instant} (calm : bridge.Calm now) :
    bridge.fireDueTimers now = bridge :=
  fireDueTimers_of_idle calm.primary calm.ack calm.young

end Bridge

end ModemLink
