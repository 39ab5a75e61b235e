/-
Module: ModemLink.Proofs.LockAccounting
Purpose: Who owns the primary wake lock after any run, and who lost it to a timeout.
Main exports: IssuedIn, Traced, primary_lock_accounted
-/
import ModemLink.Proofs.References

namespace ModemLink

/-!
An attempt in the table without a reference to the primary lock lost it to a timeout of the lock
after it was handed over.  `Traced old bridge` keeps, for each attempt in the table, the place in
the history after `old` at which it was handed over.  With `old` empty it follows the whole life of
a bridge; with the history up to a moment at which the table was empty it follows what came since.
-/

/-- In `effects` the attempt was accepted by the channel, nothing was handed over under its serial
after that, and if it has no reference the primary lock timed out after that. -/
def IssuedIn (effects : List Effect) (attempt : Attempt) : Prop :=
  ∃ before after, effects = before ++ .handed attempt.outbound .accepted :: after ∧
    (∀ request reply, .handed request reply ∈ after → request.serial ≠ attempt.serial) ∧
    (attempt.holdsLock = false → .measured (.lockTimedOut .primary) ∈ after)

namespace IssuedIn

theorem append {effects more : List Effect} {attempt : Attempt} (issued : IssuedIn effects attempt)
    (others : ∀ request reply, .handed request reply ∈ more → request.serial ≠ attempt.serial) :
    IssuedIn (effects ++ more) attempt := by
  obtain ⟨before, after, rfl, apart, timedOut⟩ := issued
  refine ⟨before, after ++ more, by simp, ?_, ?_⟩
  · intro request reply member
    rcases List.mem_append.mp member with member | member
    · exact apart request reply member
    · exact others request reply member
  · intro lost
    exact List.mem_append_left more (timedOut lost)

/-- A timeout of the lock explains why an attempt has no reference. -/
theorem detached {effects more : List Effect} {attempt : Attempt}
    (issued : IssuedIn effects attempt)
    (others : ∀ request reply, .handed request reply ∈ more → request.serial ≠ attempt.serial)
    (timedOut : .measured (.lockTimedOut .primary) ∈ more) :
    IssuedIn (effects ++ more) { attempt with holdsLock := false } := by
  obtain ⟨before, after, rfl, apart, -⟩ := issued
  refine ⟨before, after ++ more, by rw [List.append_assoc]; rfl, ?_, ?_⟩
  · intro request reply member
    rcases List.mem_append.mp member with member | member
    · exact apart request reply member
    · exact others request reply member
  · intro _
    exact List.mem_append_right after timedOut

end IssuedIn

theorem Effect.not_handed_of_filterMap {effects : List Effect}
    (handed : effects.filterMap Effect.handed? = []) (request : Outbound) (reply : SendReply) :
    .handed request reply ∉ effects := by
  intro member
  have none := List.filterMap_eq_nil_iff.mp handed _ member
  exact Option.some_ne_none _ none

namespace Bridge

variable {χ : Type}

/-- Since `old`, every attempt in the table was handed over, and each without a reference lost it to
a timeout after that. -/
def Traced (old : List Effect) (bridge : Bridge χ) : Prop :=
  ∃ since, bridge.history = old ++ since ∧
    ∀ attempt ∈ bridge.pending.attempts, IssuedIn since attempt

/-- Steps that hand nothing over and add nothing to the table. -/
theorem Traced.of_quiet {old : List Effect} {before after : Bridge χ}
    (traced : Traced old before)
    (quiet : ∃ effects, after.history = before.history ++ effects ∧
      effects.filterMap Effect.handed? = [])
    (kept : ∀ attempt ∈ after.pending.attempts, attempt ∈ before.pending.attempts) :
    Traced old after := by
  obtain ⟨since, history, issued⟩ := traced
  obtain ⟨effects, grown, handed⟩ := quiet
  refine ⟨since ++ effects, by rw [grown, history, List.append_assoc], ?_⟩
  intro attempt member
  apply (issued attempt (kept attempt member)).append
  intro request reply handedOver
  exact absurd handedOver (Effect.not_handed_of_filterMap handed request reply)

theorem Traced.of_same {old : List Effect} {before after : Bridge χ} (traced : Traced old before)
    (same : SameRequests before after) : Traced old after := by
  obtain ⟨effects, grown, asides⟩ := same.history
  apply traced.of_quiet ⟨effects, grown, Effect.handovers_of_asides asides⟩
  intro attempt member
  rwa [same.pending] at member

theorem Traced.of_settles {old : List Effect} {before after : Bridge χ}
    {settled : List (Ticket × Outcome)} (traced : Traced old before)
    (settles : Settles before after settled) : Traced old after := by
  obtain ⟨effects, grown, handed, -⟩ := settles.history
  apply traced.of_quiet ⟨effects, grown, handed⟩
  intro attempt member
  rwa [settles.pending] at member

theorem Traced.withPending {old : List Effect} {bridge : Bridge χ} {pending : PendingTable}
    (traced : Traced old bridge)
    (kept : ∀ attempt ∈ pending.attempts, attempt ∈ bridge.pending.attempts) :
    Traced old { bridge with pending := pending } :=
  traced.of_quiet ⟨[], (List.append_nil _).symm, rfl⟩ kept

/-! ## Requests -/

/-- What waits keeps its place while another attempt is handed over under a free serial. -/
theorem Traced.handOver {old : List Effect} {bridge : Bridge χ} (traced : Traced old bridge)
    {attempt : Attempt} {pending : PendingTable}
    (inserted : bridge.pending.insert? attempt.holding = some pending) (reply : SendReply)
    (channel : χ) (now : Instant) :
    Traced old (bridge.handOver attempt reply channel now) := by
  obtain ⟨since, history, issued⟩ := traced.of_same (sameRequests_acquireLock bridge now)
  refine ⟨since ++ [.handed attempt.outbound reply], ?_, ?_⟩
  · rw [Bridge.handOver, history_emit, ← List.append_assoc]
    exact congrArg (· ++ _) history
  · intro other member
    have waited : other ∈ bridge.pending.attempts := by
      rwa [pending_handOver] at member
    apply (issued other (by rwa [(sameRequests_acquireLock bridge now).pending])).append
    intro request reply handedOver
    cases List.mem_singleton.mp handedOver
    exact (PendingTable.serial_ne_of_insert? inserted waited).symm

theorem Traced.retrying {old : List Effect} {bridge : Bridge χ} (traced : Traced old bridge)
    (kind : RequestKind) (failed version : Version) :
    Traced old (bridge.retrying kind failed version) :=
  traced.of_quiet ⟨[.measured (.fallback kind failed version)], history_of_journal rfl, rfl⟩
    fun _ member => member

/-- An accepted attempt joins the table right after it was handed over. -/
theorem Traced.awaiting {old : List Effect} {bridge : Bridge χ} (traced : Traced old bridge)
    {attempt : Attempt} {pending : PendingTable}
    (inserted : bridge.pending.insert? attempt.holding = some pending) (channel : χ)
    (now : Instant) :
    Traced old ((bridge.handOver attempt .accepted channel now).awaiting attempt pending) := by
  have acquired := sameRequests_acquireLock bridge now
  obtain ⟨since, history, issued⟩ := traced.of_same acquired
  refine ⟨since ++ [.handed attempt.outbound .accepted,
    .measured (.submitted attempt.kind attempt.version)], ?_, ?_⟩
  · rw [Bridge.awaiting, measure, history_emit, ← List.append_assoc, ← history]
    show (bridge.handOver attempt .accepted channel now).history ++ _ = _
    rw [Bridge.handOver, history_emit, List.append_assoc]
    rfl
  · intro other member
    have member : other ∈ pending.attempts := member
    rw [PendingTable.attempts_insert? inserted] at member
    rcases List.mem_cons.mp member with rfl | waited
    · exact ⟨since, [.measured (.submitted attempt.kind attempt.version)], rfl, by simp,
        fun lost => absurd lost (by simp [Attempt.holding])⟩
    · apply (issued other (by rwa [acquired.pending])).append
      intro request reply handedOver
      simp only [List.mem_cons, List.not_mem_nil, or_false, reduceCtorEq, Effect.handed.injEq]
        at handedOver
      rw [handedOver.1]
      exact (PendingTable.serial_ne_of_insert? inserted waited).symm

section

variable [Channel χ]

theorem Issue.traced {old : List Effect} {bridge after : Bridge χ} {attempt : Attempt}
    {now : Instant} {trace : List (Attempt × SendReply)}
    (issued : Issue now bridge attempt trace after) (traced : Traced old bridge) :
    Traced old after := by
  induction issued with
  | @accepted bridge attempt pending channel spoken inserted replied =>
      exact traced.awaiting inserted channel now
  | @unavailable bridge attempt pending channel reason spoken inserted replied =>
      exact (traced.handOver inserted (.unavailable reason) channel now).of_settles
        (settles_finish _ attempt.holding _ now)
  | @exhausted bridge attempt pending channel spoken inserted replied lowest =>
      have handed := traced.handOver inserted .versionRefused channel now
      have lowered : Traced old ((bridge.handOver attempt .versionRefused channel now).lowered
          attempt.kind attempt.version) :=
        handed.of_quiet ⟨[], (List.append_nil _).symm, rfl⟩ fun _ member => member
      exact lowered.of_settles (settles_finish _ attempt.holding _ now)
  | @retried bridge after attempt pending channel version trace spoken inserted replied lower rest
      ih =>
      have handed := traced.handOver inserted .versionRefused channel now
      have retrying := ih (handed.retrying attempt.kind attempt.version version)
      exact retrying.of_same (sameRequests_releaseLock after now)

theorem traced_submit {old : List Effect} {bridge : Bridge χ} {submission : Submission}
    {now : Instant} (sound : (bridge.submit submission now).collision = none)
    (traced : Traced old bridge) : Traced old (bridge.submit submission now) := by
  cases spoken : bridge.versions.current submission.kind with
  | none =>
      exact traced.of_settles (settles_submit_of_unspoken spoken now)
  | some version =>
      obtain ⟨trace, issued⟩ := submit_of_spoken spoken sound
      exact issued.traced traced

theorem traced_fallBack {old : List Effect} {bridge : Bridge χ} {attempt : Attempt}
    {failed : Version} {now : Instant}
    (sound : (bridge.fallBack attempt failed now).collision = none) (traced : Traced old bridge) :
    Traced old (bridge.fallBack attempt failed now) := by
  rcases fallBack_cases sound with ⟨lowest, course⟩ | ⟨version, trace, after, lower, issued, course⟩
  · rw [course]
    have lowered : Traced old (bridge.lowered attempt.kind failed) :=
      traced.of_quiet ⟨[], (List.append_nil _).symm, rfl⟩ fun _ member => member
    exact lowered.of_settles (settles_finish _ attempt _ now)
  · rw [course]
    exact (issued.traced (traced.retrying attempt.kind failed version)).of_same
      (sameRequests_releaseIf after attempt.holdsLock now)

theorem traced_onAnswer {old : List Effect} {bridge : Bridge χ} {header : AnswerHeader}
    {payload : Payload} {now : Instant}
    (sound : (bridge.onAnswer header payload now).collision = none) (traced : Traced old bridge) :
    Traced old (bridge.onAnswer header payload now) := by
  cases waiting : bridge.pending.find? header.serial with
  | none => exact traced.of_same (sameRequests_onAnswer_of_stale waiting payload now)
  | some attempt =>
      have taken : Traced old { bridge with pending := bridge.pending.erase header.serial } :=
        traced.withPending fun other member => (List.mem_filter.mp member).1
      have answered := taken.of_same (sameRequests_answered bridge attempt header now)
      rw [onAnswer_of_waiting waiting] at sound ⊢
      split
      · rename_i refused
        rw [if_pos refused] at sound
        exact traced_fallBack sound answered
      · split
        · exact answered.of_settles (settles_finish _ attempt _ now)
        · exact answered.of_settles (settles_finish _ attempt _ now)

end

/-! ## Timers, losses and the end -/

/-- A timeout of the primary lock detaches what waits, and stands in the history from then on. -/
theorem traced_onLockTimer {old : List Effect} {bridge : Bridge χ} (traced : Traced old bridge)
    (timer : LockTimer) (now : Instant) : Traced old (bridge.onLockTimer timer now) := by
  have asides := WakeLocks.asides_onTimer bridge.locks timer now
  cases judged : bridge.locks.onTimer timer now with
  | mk expiry rest =>
      rw [judged] at asides
      have handed := Effect.handovers_of_asides asides
      by_cases timedOut : ∃ outstanding, expiry = .timedOut outstanding
      · obtain ⟨outstanding, rfl⟩ := timedOut
        obtain ⟨-, -, -, -, told⟩ := WakeLocks.onTimer_eq_timedOut judged
        rw [onLockTimer_of_timedOut judged]
        refine Traced.of_same ?_ (sameRequests_withDetector _ _)
        obtain ⟨since, history, issued⟩ := traced
        refine ⟨since ++ rest.2, ?_, ?_⟩
        · rw [history_emit, ← List.append_assoc]
          exact congrArg (· ++ _) history
        · intro attempt member
          obtain ⟨waiting, waits, rfl⟩ := List.mem_map.mp member
          refine (issued waiting waits).detached ?_ told
          intro request reply handedOver
          exact absurd handedOver (Effect.not_handed_of_filterMap handed request reply)
      · rw [onLockTimer_of_not_timedOut judged fun outstanding same => timedOut ⟨outstanding, same⟩]
        exact traced.of_quiet ⟨rest.2, history_of_journal rfl, handed⟩ fun _ member => member

theorem traced_firePrimaryTimer {old : List Effect} {bridge : Bridge χ}
    (traced : Traced old bridge) (now : Instant) : Traced old (bridge.firePrimaryTimer now) := by
  unfold firePrimaryTimer
  split
  · exact traced
  · split
    · have disarmed : Traced old { bridge with primaryTimer := none } := traced
      exact traced_onLockTimer disarmed _ now
    · exact traced

theorem traced_fireAckTimer {old : List Effect} {bridge : Bridge χ} (traced : Traced old bridge)
    (now : Instant) : Traced old (bridge.fireAckTimer now) := by
  unfold fireAckTimer
  split
  · exact traced
  · split
    · have disarmed : Traced old { bridge with ackTimer := none } := traced
      exact traced_onLockTimer disarmed _ now
    · exact traced

theorem traced_fireDueTimers {old : List Effect} {bridge : Bridge χ} (traced : Traced old bridge)
    (now : Instant) : Traced old (bridge.fireDueTimers now) := by
  have fired := traced_fireAckTimer (traced_firePrimaryTimer traced now) now
  refine Traced.of_settles ?_ (settles_ageOut _ now)
  exact fired.withPending fun other member => (List.mem_filter.mp member).1

theorem traced_shutdown {old : List Effect} {bridge : Bridge χ} (traced : Traced old bridge)
    (now : Instant) : Traced old (bridge.shutdown now) := by
  cases running : bridge.running with
  | false => rwa [shutdown_of_stopped running]
  | true =>
      refine Traced.of_settles ?_ (settles_shutdown running now)
      exact traced.of_quiet ⟨[], (List.append_nil _).symm, rfl⟩ fun _ member =>
        absurd member List.not_mem_nil

theorem traced_react [Channel χ] {old : List Effect} {bridge : Bridge χ} {now : Instant}
    {event : Event} (sound : (bridge.react now event).collision = none)
    (traced : Traced old bridge) : Traced old (bridge.react now event) := by
  cases event with
  | submit submission => exact traced_submit sound traced
  | answer header payload => exact traced_onAnswer sound traced
  | requestAck serial =>
      obtain ⟨since, history, issued⟩ := traced
      refine ⟨since, history, ?_⟩
      intro attempt member
      obtain ⟨waiting, waits, rfl⟩ := List.mem_map.mp member
      obtain ⟨before, after, whole, others, timedOut⟩ := issued waiting waits
      refine ⟨before, after, ?_⟩
      split
      · exact ⟨whole, others, timedOut⟩
      · exact ⟨whole, others, timedOut⟩
  | indication indication => exact traced.of_same (sameRequests_onIndication bridge indication now)
  | channelLost =>
      refine Traced.of_settles ?_ (settles_failAll bridge now)
      exact traced.withPending fun _ member => absurd member List.not_mem_nil
  | channelRestarted => exact traced.of_same (sameRequests_withDetector bridge _)
  | listenIndications listener =>
      exact traced.of_same (sameRequests_listenIndications bridge listener)
  | listenStatus listener => exact traced.of_same (sameRequests_listenStatus bridge listener)
  | shutdown => exact traced_shutdown traced now

theorem traced_maintained [Channel χ] (old : List Effect) :
    Maintained fun _ (bridge : Bridge χ) => Traced old bridge where
  perm _ traced := traced
  same same traced := traced.of_same same
  serialTaken traced := traced.of_quiet ⟨[], (List.append_nil _).symm, rfl⟩ fun _ member => member
  timers now traced := traced_fireDueTimers traced now
  react _ _ _ sound traced := traced_react sound traced

theorem traced_of_empty {bridge : Bridge χ} (empty : bridge.pending.size = 0) :
    Traced bridge.history bridge := by
  refine ⟨[], (List.append_nil _).symm, ?_⟩
  intro attempt member
  rw [List.length_eq_zero_iff.mp empty] at member
  exact absurd member List.not_mem_nil

/-! ## The account of a run -/

/-- A timer that takes the primary lock away tells as many references as attempts own. -/
def TellsOwners (bridge : Bridge χ) : Prop :=
  ∀ timer now outstanding, (bridge.locks.onTimer timer now).1 = .timedOut outstanding →
    outstanding.toNat = bridge.pending.lockHolders

theorem Accounted.tellsOwners {bridge : Bridge χ} (account : Accounted bridge 0) :
    TellsOwners bridge := by
  intro timer now outstanding timedOut
  cases judged : bridge.locks.onTimer timer now with
  | mk expiry rest =>
      rw [judged] at timedOut
      cases timedOut
      rw [(WakeLocks.onTimer_eq_timedOut judged).1, account.references, Nat.add_zero]

theorem accounted_new (config : BridgeConfig) (serials : SerialSource) (channel : χ) :
    Accounted (new config serials channel) 0 :=
  ⟨rfl, rfl, rfl, rfl⟩

/-- Without a timeout all attempts in the table own a reference. -/
theorem lockHolders_of_traced {old since : List Effect} {bridge : Bridge χ}
    (traced : Traced old bridge) (history : bridge.history = old ++ since)
    (quiet : .measured (.lockTimedOut .primary) ∉ since) :
    bridge.pending.lockHolders = bridge.pending.size := by
  obtain ⟨later, grown, issued⟩ := traced
  rw [history, List.append_cancel_left_eq] at grown
  cases grown
  apply List.countP_eq_length.mpr
  intro attempt member
  obtain ⟨before, after, whole, -, timedOut⟩ := issued attempt member
  cases held : attempt.holdsLock with
  | true => rfl
  | false =>
      rw [whole] at quiet
      exact absurd (List.mem_append_right before (List.mem_cons_of_mem _ (timedOut held))) quiet

section

variable [Channel χ]

/-- After any run without a collision of serials and with room in the counter: the references to the
primary lock are as many as the attempts in the table that own one; the lock was taken from the
system as often as it was given back, and once more while it is held; an attempt without a reference
lost it to a timeout after it was handed over; since any moment with an empty table, inside a batch
or between calls, and as long as the lock did not time out after it, the lock is held exactly while
something waits; and a timer that takes the lock away tells the number of owners, whether it fires
first or after the one of the primary lock.  Serials have 32 bits like the counter: a run lacks room
only if all but a few of them wait, or are handed in by one call, at once. -/
theorem primary_lock_accounted (config : BridgeConfig) (serials : SerialSource) (channel : χ)
    (calls : List (Call χ)) (bridge : Bridge χ)
    (reached : bridge = (new config serials channel).run calls)
    (sound : bridge.collision = none) (room : HasRoom (new config serials channel) calls) :
    bridge.locks.primary.count.toNat = bridge.pending.lockHolders ∧
    bridge.history.count (.lockTaken .primary) =
      bridge.history.count (.lockGivenBack .primary) +
        (if 0 < bridge.locks.primary.count then 1 else 0) ∧
    (∀ attempt ∈ bridge.pending.attempts, attempt.holdsLock = false →
      ∃ before after, bridge.history = before ++ .handed attempt.outbound .accepted :: after ∧
        (∀ request reply, .handed request reply ∈ after → request.serial ≠ attempt.serial) ∧
        .measured (.lockTimedOut .primary) ∈ after) ∧
    (∀ earlier later, calls.flatMap Call.steps = earlier ++ later →
      ((new config serials channel).run earlier).pending.size = 0 →
      ∃ since, bridge.history = ((new config serials channel).run earlier).history ++ since ∧
        (.measured (.lockTimedOut .primary) ∉ since →
          (bridge.locks.primary.isHeld = true ↔ 0 < bridge.pending.size))) ∧
    TellsOwners bridge ∧ ∀ now, TellsOwners (bridge.firePrimaryTimer now) := by
  subst reached
  have account := accounted_run sound (accounted_new config serials channel) room
  refine ⟨account.references, ?_, ?_, ?_, account.tellsOwners, ?_⟩
  · rw [account.balance, WakeLock.isHeld]
    by_cases held : 0 < ((new config serials channel).run calls).locks.primary.count
    · simp [held]
    · simp [held]
  · have empty : (new config serials channel).pending.size = 0 := rfl
    obtain ⟨since, history, issued⟩ := (traced_maintained _).run [] sound (traced_of_empty empty)
    intro attempt member lost
    obtain ⟨before, after, whole, others, timedOut⟩ := issued attempt member
    exact ⟨before, after, history.trans whole, others, timedOut lost⟩
  · intro earlier later split empty
    rw [← run_steps, split, run_append] at sound account ⊢
    obtain ⟨since, history, issued⟩ := (traced_maintained _).run [] sound (traced_of_empty empty)
    refine ⟨since, history, ?_⟩
    intro quiet
    rw [WakeLock.isHeld_iff, account.references, Nat.add_zero,
      lockHolders_of_traced ⟨since, history, issued⟩ history quiet]
  · intro now
    exact (accounted_firePrimaryTimer account now).tellsOwners

/-- A request that waits for its answer when the lock times out goes on waiting without it. -/
theorem primary_lock_accounted_past_timeout :
    let calls : List (Call RecordingChannel) :=
      [.event (.submit ⟨⟨1⟩, .sendSms, .empty, .unknown, 0, 0⟩) 0, .timers 60000000]
    let bridge := (new {} (.start 1) {}).run calls
    bridge.locks.primary.count.toNat = bridge.pending.lockHolders ∧
      bridge.pending.size = 1 ∧ bridge.locks.primary.isHeld = false := by
  intro calls bridge
  have account := primary_lock_accounted {} (.start 1) ({} : RecordingChannel) calls bridge rfl
    (by decide +kernel) ⟨by decide +kernel, by decide +kernel, trivial⟩
  exact ⟨account.1, by decide +kernel, by decide +kernel⟩

end

end Bridge

end ModemLink
