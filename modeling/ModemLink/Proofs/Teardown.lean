/-
Module: ModemLink.Proofs.Teardown
Purpose: What is left of requests, locks and timers when the modem is lost and when a bridge stops.
Main exports: Idle, idle_run, AckBalanced, ackBalanced_run, Ended, ended_batch, nothing_left_behind
-/
import ModemLink.Proofs.HoldBounds
import ModemLink.Proofs.Provenance
import ModemLink.Proofs.Tally

namespace ModemLink

/-!
A channel that is lost never touches the primary lock itself: the references of the attempts that
fail are dropped one by one, and with the last one the lock goes back.  If all attempts lost their
references to a timeout before, then the lock is free already, and it has to be known that its timer
is not live.  A shutdown clears both locks whatever their counters say; that the ack lock is given
back as often as it was taken rests on its counter, which has to have room for the frames of one
hold.
-/

/-- What does not concern the ack lock stands apart from its holds. -/
theorem Effect.count_ack_eq_zero {effects : List Effect}
    (elsewhere : ∀ effect ∈ effects, effect.lock? ≠ some .ack) :
    effects.count (.lockTaken .ack) = 0 ∧ effects.count (.lockGivenBack .ack) = 0 := by
  constructor
  · exact List.count_eq_zero.mpr fun member => elsewhere _ member rfl
  · exact List.count_eq_zero.mpr fun member => elsewhere _ member rfl

namespace WakeLocks

/-- A timer of the ack lock leaves the primary lock alone. -/
theorem primary_onTimer_of_ack {timer : LockTimer} (own : timer.lock = .ack) (locks : WakeLocks)
    (now : Instant) : (locks.onTimer timer now).2.1.primary = locks.primary := by
  simp only [onTimer, own]
  split <;> rfl

end WakeLocks

namespace Bridge

variable {χ : Type}

/-- A timer that fires changes the locks, and no live timer. -/
theorem locks_onLockTimer (bridge : Bridge χ) (timer : LockTimer) (now : Instant) :
    (bridge.onLockTimer timer now).locks = (bridge.locks.onTimer timer now).2.1 ∧
      (bridge.onLockTimer timer now).primaryTimer = bridge.primaryTimer ∧
      (bridge.onLockTimer timer now).ackTimer = bridge.ackTimer := by
  rcases judged : bridge.locks.onTimer timer now with ⟨expiry, locks, effects⟩
  cases expiry with
  | timedOut outstanding =>
      rw [onLockTimer_of_timedOut judged]
      have same := fun middle : Bridge χ =>
        sameHolds_withDetector middle (bridge.detector.onLockTimeout now)
      exact ⟨(same _).locks, (same _).primaryTimer, (same _).ackTimer⟩
  | released | stale =>
      rw [onLockTimer_of_not_timedOut judged (by simp)]
      exact ⟨rfl, rfl, rfl⟩

/-! ## The timer of a free lock -/

/-- A live timer of the ack lock is its own, and while the primary lock is free it has no timer. -/
structure Idle (bridge : Bridge χ) : Prop where
  primaryId : bridge.locks.primary.id = .primary
  ackId : bridge.locks.ack.id = .ack
  own : ∀ timer, bridge.ackTimer = some timer → timer.lock = .ack
  free : bridge.locks.primary.isHeld = false → bridge.primaryTimer = none

theorem idle_new (config : BridgeConfig) (serials : SerialSource) (channel : χ) :
    Idle (new config serials channel) :=
  ⟨rfl, rfl, (fun _ live => nomatch live), fun _ => rfl⟩

namespace Idle

variable {before after : Bridge χ}

theorem of_same (idle : Idle before) (same : SameHolds before after) : Idle after where
  primaryId := same.locks ▸ idle.primaryId
  ackId := same.locks ▸ idle.ackId
  own := same.ackTimer ▸ idle.own
  free := same.locks ▸ same.primaryTimer ▸ idle.free

theorem acquired (idle : Idle before)
    (room : before.locks.primary.count.toNat + 1 < UInt32.size) (now : Instant) :
    Idle (before.acquireLock now) := by
  have held := WakeLock.isHeld_take now room
  have id := (WakeLock.id_take before.locks.primary now).trans idle.primaryId
  by_cases free : before.locks.primary.count = 0
  · rw [acquireLock_of_free free, schedule_primary _ id]
    exact ⟨id, idle.ackId, idle.own, fun notHeld => absurd (held.symm.trans notHeld) (by simp)⟩
  · rw [acquireLock_of_held free]
    exact ⟨id, idle.ackId, idle.own, fun notHeld => absurd (held.symm.trans notHeld) (by simp)⟩

theorem released (idle : Idle before) (now : Instant) : Idle (before.releaseLock now) where
  primaryId := (WakeLock.id_drop _ now).trans idle.primaryId
  ackId := idle.ackId
  own := idle.own
  free := by
    intro notHeld
    have ended : (before.releaseLock now).primaryTimer =
        if (before.releaseLock now).locks.primary.isHeld then before.primaryTimer else none := rfl
    rw [ended, notHeld]
    rfl

theorem acknowledged [Channel χ] (idle : Idle before) (now : Instant) :
    Idle (before.sendAck now) := by
  rcases reply : Channel.sendAck before.channel with ⟨_ | reason, channel⟩
  · have id := (WakeLock.id_take before.locks.ack now).trans idle.ackId
    have own : (before.locks.holdForAck now).1.lock = .ack := id
    rw [sendAck_of_accepted reply, schedule_ack _ own]
    refine ⟨idle.primaryId, id, ?_, idle.free⟩
    rintro timer ⟨⟩
    exact own
  · rw [sendAck_of_refused reply]
    exact ⟨idle.primaryId, idle.ackId, idle.own, idle.free⟩

theorem primaryFired (idle : Idle before) (timer : LockTimer) (now : Instant) :
    Idle ({ before with primaryTimer := none }.onLockTimer timer now) := by
  obtain ⟨locks, primaryTimer, ackTimer⟩ :=
    locks_onLockTimer { before with primaryTimer := none } timer now
  obtain ⟨primaryId, ackId⟩ := WakeLocks.ids_of_make (before.locks.make_onTimer now timer)
  constructor
  · rw [locks]
    exact primaryId.trans idle.primaryId
  · rw [locks]
    exact ackId.trans idle.ackId
  · rw [ackTimer]
    exact idle.own
  · exact fun _ => primaryTimer

theorem ackFired (idle : Idle before) {timer : LockTimer} (live : before.ackTimer = some timer)
    (now : Instant) : Idle ({ before with ackTimer := none }.onLockTimer timer now) := by
  obtain ⟨locks, primaryTimer, ackTimer⟩ :=
    locks_onLockTimer { before with ackTimer := none } timer now
  obtain ⟨primaryId, ackId⟩ := WakeLocks.ids_of_make (before.locks.make_onTimer now timer)
  have primary := WakeLocks.primary_onTimer_of_ack (idle.own timer live) before.locks now
  constructor
  · rw [locks]
    exact primaryId.trans idle.primaryId
  · rw [locks]
    exact ackId.trans idle.ackId
  · simp [ackTimer]
  · rw [locks, primaryTimer, primary]
    exact idle.free

end Idle

section

variable [Channel χ]

theorem LockStep.idle {now : Instant} {before after : Bridge χ} (step : LockStep now before after)
    (idle : Idle before) : Idle after := by
  cases step with
  | beside same => exact idle.of_same same
  | acquired room => exact idle.acquired room now
  | released => exact idle.released now
  | acknowledged => exact idle.acknowledged now
  | primaryFired => exact idle.primaryFired _ now
  | ackFired live => exact idle.ackFired live now
  | gaveBack =>
      exact ⟨(WakeLock.id_clear _ now).trans idle.primaryId,
        (WakeLock.id_clear _ now).trans idle.ackId, (fun _ live => nomatch live), fun _ => rfl⟩

theorem LockCourse.idle {now : Instant} {before after : Bridge χ}
    (course : LockCourse now before after) (idle : Idle before) : Idle after := by
  induction course with
  | refl => exact idle
  | tail earlier step ih => exact step.idle ih

theorem idle_run {calls : List (Call χ)} {bridge : Bridge χ}
    (sound : (bridge.run calls).collision = none) (account : Accounted bridge 0)
    (room : HasRoom bridge calls) (idle : Idle bridge) : Idle (bridge.run calls) := by
  induction calls generalizing bridge with
  | nil => exact idle
  | cons first rest ih =>
      have after : (bridge.call first).collision = none := collision_of_run sound
      apply ih sound (accounted_call after account room.1) room.2
      cases made : first.instant? with
      | none => exact idle.of_same (sameHolds_call made)
      | some now => exact (lockCourse_call made after account room.1).idle idle

end

/-! ## Holds of the ack lock -/

/-- The ack lock was taken from the system as often as it was given back, and once more while it is
held. -/
def AckBalanced (bridge : Bridge χ) : Prop :=
  bridge.history.count (.lockTaken .ack) =
    bridge.history.count (.lockGivenBack .ack) + bridge.locks.ack.isHeld.toNat

namespace AckBalanced

variable {before after : Bridge χ}

/-- The ack lock moves, after things that do not concern it. -/
theorem of_moves (balanced : AckBalanced before) (id : before.locks.ack.id = .ack)
    {others effects : List Effect} (grown : after.history = before.history ++ (others ++ effects))
    (elsewhere : ∀ effect ∈ others, effect.lock? ≠ some .ack)
    (moves : WakeLock.Moves before.locks.ack after.locks.ack effects) : AckBalanced after := by
  obtain ⟨taken, givenBack⟩ := Effect.count_ack_eq_zero elsewhere
  have balance := moves.balance
  rw [id] at balance
  unfold AckBalanced at balanced ⊢
  simp only [grown, List.count_append, taken, givenBack]
  omega

/-- Nothing happens to the ack lock. -/
theorem of_beside (balanced : AckBalanced before) (id : before.locks.ack.id = .ack)
    {effects : List Effect} (grown : after.history = before.history ++ effects)
    (elsewhere : ∀ effect ∈ effects, effect.lock? ≠ some .ack)
    (same : after.locks.ack = before.locks.ack) : AckBalanced after := by
  rw [← List.append_nil effects] at grown
  exact balanced.of_moves id grown elsewhere (same ▸ .refl _)

theorem acquired (balanced : AckBalanced before) (id : before.locks.ack.id = .ack)
    (primary : before.locks.primary.id = .primary) (now : Instant) :
    AckBalanced (before.acquireLock now) := by
  apply balanced.of_beside id (history_acquireLock before now)
  · intro effect member
    simp [WakeLock.lock_of_mem_take member, primary]
  · have id := (WakeLock.id_take before.locks.primary now).trans primary
    by_cases free : before.locks.primary.count = 0
    · rw [acquireLock_of_free free, schedule_primary _ id]
      rfl
    · rw [acquireLock_of_held free]
      rfl

theorem released (balanced : AckBalanced before) (id : before.locks.ack.id = .ack)
    (primary : before.locks.primary.id = .primary) (now : Instant) :
    AckBalanced (before.releaseLock now) := by
  refine balanced.of_beside id (history_of_journal rfl) ?_ rfl
  intro effect member
  simp [WakeLocks.lock_of_mem_release member, primary]

/-- An acknowledgement that the channel takes is one more reference, and the counter has room for it
because the history has. -/
theorem acknowledged [Channel χ] (balanced : AckBalanced before) (id : before.locks.ack.id = .ack)
    (frames : before.locks.ack.count.toNat = framesHeld before.history) (now : Instant)
    (room : FrameRoom (before.sendAck now).history) : AckBalanced (before.sendAck now) := by
  rcases reply : Channel.sendAck before.channel with ⟨_ | reason, channel⟩
  · have own : (before.locks.holdForAck now).1.lock = .ack := (WakeLock.id_take _ now).trans id
    rw [sendAck_of_accepted reply] at room ⊢
    rw [history_schedule, history_emit] at room
    have references : before.locks.ack.count.toNat + 1 < UInt32.size := by
      have counted := room _ (List.prefix_refl _)
      have one := framesHeld_ackEffects before.history before.locks now
      rw [frames, ← one]
      exact counted
    rw [schedule_ack _ own]
    have others : ∀ effect ∈ [Effect.acknowledged true, .measured .ackSent],
        effect.lock? ≠ some .ack := by simp [Effect.lock?]
    have moves := WakeLock.moves_take now references
    exact balanced.of_moves id (history_of_journal rfl) others ⟨moves.id, moves.balance⟩
  · rw [sendAck_of_refused reply]
    refine balanced.of_beside id (history_of_journal rfl) ?_ rfl
    simp [Effect.lock?]

end AckBalanced

theorem SameHolds.ackBalanced {before after : Bridge χ} (same : SameHolds before after)
    (id : before.locks.ack.id = .ack) (balanced : AckBalanced before) : AckBalanced after := by
  obtain ⟨effects, grown, beside⟩ := same.history
  apply balanced.of_beside id grown _ (congrArg WakeLocks.ack same.locks)
  intro effect member
  simp [(beside effect member).lock]

section

variable {ceiling hold : Span} {primaryDue ackDue : Instant → Prop} {before after : Bridge χ}

theorem AckBalanced.primaryFired (balanced : AckBalanced before)
    (guarding : Guarding ceiling hold before primaryDue ackDue) {timer : LockTimer}
    (live : before.primaryTimer = some timer) (now : Instant) :
    AckBalanced ({ before with primaryTimer := none }.onLockTimer timer now) := by
  have judged : ({ before with primaryTimer := none } : Bridge χ).locks.onTimer timer now = _ :=
    guarding.judged_primary live now
  rw [onLockTimer_of_timedOut judged]
  refine (sameHolds_withDetector _ _).ackBalanced guarding.ackId ?_
  refine balanced.of_beside guarding.ackId (history_of_journal rfl) ?_ rfl
  intro effect member
  rcases List.mem_append.mp member with member | member
  · simp [WakeLock.lock_of_mem_giveBack member, guarding.primaryId]
  · simp [List.mem_singleton.mp member, Effect.lock?]

theorem AckBalanced.ackFired (balanced : AckBalanced before)
    (guarding : Guarding ceiling hold before primaryDue ackDue) {timer : LockTimer}
    (live : before.ackTimer = some timer) (now : Instant) :
    AckBalanced ({ before with ackTimer := none }.onLockTimer timer now) := by
  have judged : ({ before with ackTimer := none } : Bridge χ).locks.onTimer timer now = _ :=
    guarding.judged_ack live now
  have guarded := guarding.ack
  rw [live] at guarded
  have moves := WakeLock.moves_giveBack now guarded.held_of_live
  have none : ∀ effect ∈ ([] : List Effect), effect.lock? ≠ some .ack := by simp
  rw [onLockTimer_of_not_timedOut judged (by simp)]
  exact balanced.of_moves guarding.ackId (history_of_journal rfl) none moves

variable [Channel χ]

theorem LockStep.ackBalanced {now : Instant} (step : LockStep now before after)
    (guarding : Guarding ceiling hold before primaryDue ackDue) (room : FrameRoom after.history)
    (balanced : AckBalanced before) : AckBalanced after := by
  cases step with
  | beside same => exact same.ackBalanced guarding.ackId balanced
  | acquired => exact balanced.acquired guarding.ackId guarding.primaryId now
  | released => exact balanced.released guarding.ackId guarding.primaryId now
  | acknowledged => exact balanced.acknowledged guarding.ackId guarding.frames now room
  | primaryFired live => exact balanced.primaryFired guarding live now
  | ackFired live => exact balanced.ackFired guarding live now
  | gaveBack =>
      refine balanced.of_moves guarding.ackId (history_of_journal rfl) ?_
        (WakeLock.moves_clear _ now)
      intro effect member
      simp [WakeLock.lock_of_mem_clear member, guarding.primaryId]

theorem LockCourse.ackBalanced {now : Instant} (course : LockCourse now before after)
    (guarding : Guarding ceiling hold before primaryDue ackDue) (room : FrameRoom after.history)
    (balanced : AckBalanced before) : AckBalanced after := by
  induction course with
  | refl => exact balanced
  | tail earlier step ih =>
      have earlierRoom := room.of_prefix step.keeps.grows
      obtain ⟨effects, -, kept⟩ := (LockCourse.keeps earlier).guards earlierRoom guarding
      exact step.ackBalanced kept room (ih earlierRoom)

end

/-- In every run the ack lock is taken and given back by turns. -/
theorem ackBalanced_run [Channel χ] {ceiling hold : Span} {calls : List (Call χ)}
    {bridge : Bridge χ} {taken acked : List Instant} (sound : (bridge.run calls).collision = none)
    (account : Accounted bridge 0) (room : HasRoom bridge calls)
    (frames : FrameRoom (bridge.run calls).history)
    (guarding : Guarding ceiling hold bridge (DueAfter taken ceiling) (DueAfter acked hold))
    (balanced : AckBalanced bridge) : AckBalanced (bridge.run calls) := by
  induction calls generalizing bridge taken acked with
  | nil => exact balanced
  | cons first rest ih =>
      have after : (bridge.call first).collision = none := collision_of_run sound
      have accounted := accounted_call after account room.1
      have ahead : (bridge.call first).history <+: (bridge.run (first :: rest)).history :=
        history_run sound accounted room.2
      have here := frames.of_prefix ahead
      refine ih sound accounted room.2 frames (guarding_call after account room.1 here guarding) ?_
      cases made : first.instant? with
      | none => exact (sameHolds_call made).ackBalanced guarding.ackId balanced
      | some now =>
          exact (lockCourse_call made after account room.1).ackBalanced guarding here balanced

/-! ## The end of a bridge -/

/-- While nothing waits, the primary lock is free and was given back as often as taken. -/
theorem Accounted.of_empty {bridge : Bridge χ} (account : Accounted bridge 0)
    (empty : bridge.pending = .empty) :
    bridge.locks.primary.isHeld = false ∧
      bridge.history.count (.lockTaken .primary) =
        bridge.history.count (.lockGivenBack .primary) := by
  have free : bridge.locks.primary.isHeld = false := by
    rw [WakeLock.isHeld_eq_false_iff, WakeLock.count_eq_zero_iff]
    exact account.references.trans (congrArg PendingTable.lockHolders empty)
  have balance := account.balance
  rw [free] at balance
  exact ⟨free, balance⟩

/-- The end of attempts concerns neither the fault detector nor the ack lock. -/
theorem beside_finishAll (bridge : Bridge χ) (attempts : List Attempt)
    (failure : RequestKind → Failure) (now : Instant) :
    (bridge.finishAll attempts failure now).detector = bridge.detector ∧
      (bridge.finishAll attempts failure now).locks.ack = bridge.locks.ack ∧
      (bridge.finishAll attempts failure now).ackTimer = bridge.ackTimer := by
  induction attempts generalizing bridge with
  | nil => exact ⟨rfl, rfl, rfl⟩
  | cons attempt rest ih =>
      obtain ⟨detector, ack, ackTimer⟩ :=
        ih (bridge.finish attempt (.failed (failure attempt.kind)) now)
      have one : (bridge.finish attempt (.failed (failure attempt.kind)) now).detector =
            bridge.detector ∧
          (bridge.finish attempt (.failed (failure attempt.kind)) now).locks.ack =
            bridge.locks.ack ∧
          (bridge.finish attempt (.failed (failure attempt.kind)) now).ackTimer =
            bridge.ackTimer := by
        unfold finish releaseIf
        split <;> exact ⟨rfl, rfl, rfl⟩
      exact ⟨detector.trans one.1, ack.trans one.2.1, ackTimer.trans one.2.2⟩

/-- The bridge was shut down, and holds nothing. -/
structure Ended (bridge : Bridge χ) : Prop where
  running : bridge.running = false
  pending : bridge.pending = .empty
  primary : bridge.locks.primary.isHeld = false
  ack : bridge.locks.ack.isHeld = false
  primaryTimer : bridge.primaryTimer = none
  ackTimer : bridge.ackTimer = none

theorem Ended.nextDeadline? {bridge : Bridge χ} (ended : Ended bridge) :
    bridge.nextDeadline? = none := by
  rw [Bridge.nextDeadline?, ended.primaryTimer, ended.ackTimer, ended.pending]
  rfl

theorem ended_shutdown {bridge : Bridge χ} (running : bridge.running = true) (now : Instant) :
    Ended (bridge.shutdown now) := by
  have settles := settles_shutdown running now
  have cleared := fun lock : WakeLock =>
    WakeLock.isHeld_eq_false_iff.mpr (WakeLock.count_clear lock now)
  refine ⟨settles.running, settles.pending, ?_, ?_, ?_, ?_⟩
  all_goals simp only [shutdown, running, if_true]
  · exact cleared _
  · exact cleared _
  · rfl
  · rfl

section

variable [Channel χ]

theorem Ended.react {bridge : Bridge χ} (ended : Ended bridge) (now : Instant) {event : Event}
    (control : event.phase = .control) : Ended (bridge.react now event) := by
  obtain ⟨running, pending⟩ := stopped_react ended.running ended.pending now control
  cases event with
  | submit | answer | requestAck | indication | channelLost => cases control
  | channelRestarted =>
      have same := sameHolds_withDetector bridge bridge.detector.reset
      refine ⟨running, pending, ?_, ?_, same.primaryTimer.trans ended.primaryTimer,
        same.ackTimer.trans ended.ackTimer⟩
      · exact (congrArg (·.primary.isHeld) same.locks).trans ended.primary
      · exact (congrArg (·.ack.isHeld) same.locks).trans ended.ack
  | listenIndications | listenStatus =>
      exact ⟨running, pending, ended.primary, ended.ack, ended.primaryTimer, ended.ackTimer⟩
  | shutdown =>
      rw [Bridge.react, shutdown_of_stopped ended.running]
      exact ended

/-- A shutdown ends the bridge wherever it stands in a batch, since what could start anything is
handled before it. -/
theorem ended_batch {bridge : Bridge χ} {events : List Event} {now : Instant}
    (running : bridge.running = true) (shuts : .shutdown ∈ events)
    (sound : (bridge.handleBatch events now).collision = none) :
    Ended (bridge.handleBatch events now) := by
  have handled : ((bridge.fireDueTimers now).handleEach now
      (Event.inPhaseOrder events)).collision = none := sound
  have ends := handleEach_induction
    (fun rest bridge => ControlLast rest ∧ ((bridge.running = true ∧ .shutdown ∈ rest) ∨
      (Ended bridge ∧ ∀ event ∈ rest, event.phase = .control)))
    ?_ handled ⟨controlLast_inPhaseOrder events, Or.inl
      ⟨(running_fireDueTimers bridge now).trans running,
        (Event.inPhaseOrder_perm events).mem_iff.mpr shuts⟩⟩
  · rcases ends.2 with ⟨-, toCome⟩ | ⟨ended, -⟩
    · exact absurd toCome List.not_mem_nil
    · exact ⟨ended.running, ended.pending, ended.primary, ended.ack, ended.primaryTimer,
        ended.ackTimer⟩
  · rintro event rest bridge - after ⟨ordered, state⟩
    obtain ⟨first, ordered⟩ := List.pairwise_cons.mp ordered
    refine ⟨ordered, ?_⟩
    rcases state with ⟨running, toCome⟩ | ⟨ended, control⟩
    · by_cases shuts : event = .shutdown
      · subst shuts
        exact Or.inr ⟨ended_shutdown running now, fun later member => first later member rfl⟩
      · exact Or.inl ⟨(running_react after shuts).trans running,
          (List.mem_cons.mp toCome).resolve_left (Ne.symm shuts)⟩
    · exact Or.inr ⟨ended.react now (control event List.mem_cons_self),
        fun later member => control later (List.mem_cons_of_mem _ member)⟩

/-- In a bridge that any run without a collision of serials and with room in the counters of
references has led to, nothing outlives the modem or the bridge.  When the channel is lost, the
table becomes empty, each attempt in it is told once that the channel is unavailable to its kind,
which is that of the request it was handed in as, the primary lock is given back and has no timer,
and versions, fault detector and ack lock stay as they are.  When a running bridge handles a batch
with a shutdown anywhere in it, then the table is empty, both locks are free and were given back as
often as taken, nothing is due any more, and every request that was ever handed in, in this batch or
before, was told exactly once what became of it. -/
theorem nothing_left_behind (config : BridgeConfig) (serials : SerialSource) (channel : χ)
    (calls : List (Call χ)) (bridge : Bridge χ)
    (reached : bridge = (new config serials channel).run calls)
    (sound : bridge.collision = none) (room : HasRoom (new config serials channel) calls) :
    (∀ now, let lost := bridge.onChannelLost now
      lost.pending = .empty ∧
      lost.outcomes =
        bridge.outcomes ++ (PendingTable.inOrder bridge.pending.attempts).map dropped ∧
      (∀ attempt ∈ bridge.pending.attempts,
        ∃ submission ∈ calls.flatMap Call.submissions, attempt.IsFor submission) ∧
      lost.locks.primary.isHeld = false ∧ lost.primaryTimer = none ∧
      lost.history.count (.lockTaken .primary) = lost.history.count (.lockGivenBack .primary) ∧
      lost.versions = bridge.versions ∧ lost.detector = bridge.detector ∧
      lost.locks.ack = bridge.locks.ack ∧ lost.ackTimer = bridge.ackTimer) ∧
    ∀ events now, bridge.running = true → .shutdown ∈ events →
      let ended := bridge.handleBatch events now
      ended.collision = none →
      HasRoom (new config serials channel) (calls ++ [.batch events now]) →
      ended.running = false ∧ ended.pending = .empty ∧ ended.nextDeadline? = none ∧
      ended.locks.primary.isHeld = false ∧ ended.locks.ack.isHeld = false ∧
      ended.history.count (.lockTaken .primary) = ended.history.count (.lockGivenBack .primary) ∧
      (FrameRoom ended.history →
        ended.history.count (.lockTaken .ack) = ended.history.count (.lockGivenBack .ack)) ∧
      ∀ ticket, ended.heard ticket =
        demand (calls.flatMap Call.submissions ++ EventLoop.submissions events) ticket := by
  subst reached
  have fresh := accounted_new config serials channel
  refine ⟨?_, ?_⟩
  · intro now lost
    have account : Accounted lost 0 := accounted_failAll (accounted_run sound fresh room) now
    have settles := settles_failAll ((new config serials channel).run calls) now
    obtain ⟨free, balanced⟩ := account.of_empty settles.pending
    have idle : Idle lost := (lockCourse_failAll _ now).idle
      (idle_run sound fresh room (idle_new config serials channel))
    have sourced := sourced_maintained.run [] sound fun attempt waits =>
      absurd waits List.not_mem_nil
    obtain ⟨detector, ack, ackTimer⟩ := beside_finishAll
      { (new config serials channel).run calls with pending := .empty } _ .channelUnavailable now
    exact ⟨settles.pending, settles.outcomes, sourced, free, idle.free free, balanced,
      settles.versions, detector, ack, ackTimer⟩
  · intro events now running shuts ended soundAfter roomAfter
    have closed : Ended ended := ended_batch running shuts soundAfter
    have whole : (new config serials channel).run (calls ++ [.batch events now]) = ended :=
      run_append ..
    rw [← whole] at soundAfter
    have account := accounted_run soundAfter fresh roomAfter
    have tally := (tally_maintained fun _ => 0).run [] soundAfter fun _ => rfl
    rw [whole] at account tally
    refine ⟨closed.running, closed.pending, closed.nextDeadline?, closed.primary, closed.ack,
      (account.of_empty closed.pending).2, ?_, ?_⟩
    · intro frames
      rw [← whole] at frames
      have balanced := ackBalanced_run soundAfter fresh roomAfter frames
        (guarding_new config serials channel (DueAfter [] _) (DueAfter [] _)) rfl
      rw [whole, AckBalanced, closed.ack] at balanced
      exact balanced
    · intro ticket
      have told := tally ticket
      have none : ended.waiting ticket = 0 := by
        rw [waiting, closed.pending]
        rfl
      rw [none, Nat.zero_add, Nat.add_zero, List.nil_append, List.flatMap_append,
        List.flatMap_singleton] at told
      exact told

/-- A request waits after the lock timed out.  The loss of the channel finds the lock free already;
a shutdown that stands in its batch before the answer to this request, another request and an
acknowledgement finds the lock and the ack lock held. -/
theorem nothing_left_behind_past_timeout :
    let calls : List (Call RecordingChannel) :=
      [.event (.submit ⟨⟨1⟩, .sendSms, .empty, .unknown, 0, 0⟩) 0, .timers 60000000]
    let bridge := (new {} (.start 1) {}).run calls
    let lost := bridge.onChannelLost 60000001
    let events := [.shutdown, .submit ⟨⟨2⟩, .sendSms, .empty, .unknown, 60000001, 1⟩,
      .indication ⟨1, .empty, .unsolicitedAckExpected⟩,
      .answer (.plain ⟨1⟩ .sendSms .success) .empty]
    let ended := bridge.handleBatch events 60000001
    bridge.pending.size = 1 ∧ bridge.locks.primary.isHeld = false ∧
      lost.primaryTimer = none ∧ lost.outcomes = [(0, .failed (.channelUnavailable .sendSms))] ∧
      ended.history.count (.lockTaken .ack) = 1 ∧
      ended.history.count (.lockTaken .ack) = ended.history.count (.lockGivenBack .ack) ∧
      ended.nextDeadline? = none ∧ ended.heard 0 = 1 ∧ ended.heard 1 = 1 := by
  intro calls bridge lost events ended
  obtain ⟨lose, close⟩ := nothing_left_behind {} (.start 1) ({} : RecordingChannel) calls bridge rfl
    (by decide +kernel) ⟨by decide +kernel, by decide +kernel, trivial⟩
  obtain ⟨-, told, -, -, timer, -⟩ := lose 60000001
  obtain ⟨-, -, due, -, -, -, balanced, heard⟩ := close events 60000001 (by decide +kernel)
    List.mem_cons_self (by decide +kernel)
    ⟨by decide +kernel, by decide +kernel, by decide +kernel, trivial⟩
  exact ⟨by decide +kernel, by decide +kernel, timer, told.trans (by decide +kernel),
    by decide +kernel, balanced (.of_length (by decide +kernel)), due, heard 0, heard 1⟩

omit [Channel χ] in
/-- Without room in its counter the ack lock is left behind: after 2^32 acknowledgements in one hold
it was taken, and a shutdown does not give it back. -/
theorem ack_lock_left_behind :
    let bridge := flooded UInt32.size
    let ended := bridge.handleBatch [.shutdown] 0
    bridge.running = true ∧ bridge.collision = none ∧
      0 < ended.history.count (.lockTaken .ack) ∧
      ended.history.count (.lockGivenBack .ack) = 0 := by
  intro bridge ended
  have past : Flooded UInt32.size bridge := (flooded_run _).1
  have history : ended.history = bridge.history ++ [.measured (.pendingCount 0)] :=
    past.history_shut
  refine ⟨past.running, past.sound, ?_, ?_⟩
  · rw [history, List.count_pos_iff]
    exact List.mem_append_left _ (past.taken (by decide))
  · rw [history, List.count_eq_zero]
    simpa using past.kept

end

end Bridge

end ModemLink
