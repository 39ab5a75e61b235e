/-
Module: ModemLink.Proofs.LockSteps
Purpose: What a call does to the wake locks and their timers, step by step.
Main exports:
  Call.instant?, SameHolds, LockStep, LockCourse, Issue.lockCourse, lockCourse_react,
  lockCourse_handleEach, lockCourse_call, sameHolds_call
-/
import Mathlib.Logic.Relation
import ModemLink.Proofs.References

namespace ModemLink

/-!
Locks and timers change in a handful of ways only: a reference to the primary lock is taken or
dropped, an acknowledgement is sent, a live timer that is due fires, or both locks are given back.
`LockStep` has one constructor for each, and one for everything else.  Every call at an instant is a
chain of such steps at that instant, so a property of locks and timers has to be looked at for each
constructor and never again for handlers.
-/

/-- The instant at which a call is made, if it has one. -/
def Call.instant? {χ : Type} : Call χ → Option Instant
  | .batch _ now | .timers now | .event _ now => some now
  | .sampled | .serialTaken | .channelChanged _ | .indicationListenerLost _
  | .statusListenerLost _ => none

/-- Neither about a lock nor an acknowledgement that the channel took. -/
structure Effect.IsBesideLocks (effect : Effect) : Prop where
  lock : effect.lock? = none
  frame : effect ≠ .acknowledged true

namespace Bridge

variable {χ : Type}

/-! ## Steps that do not concern locks -/

/-- The locks and their timers are the same, and what was done is not about them. -/
structure SameHolds (before after : Bridge χ) : Prop where
  locks : after.locks = before.locks
  primaryTimer : after.primaryTimer = before.primaryTimer
  ackTimer : after.ackTimer = before.ackTimer
  history : ∃ effects, after.history = before.history ++ effects ∧
    ∀ effect ∈ effects, effect.IsBesideLocks

namespace SameHolds

/-- Bridges that differ neither in locks and timers nor in what was done. -/
theorem of_eq {before after : Bridge χ} (locks : after.locks = before.locks)
    (primaryTimer : after.primaryTimer = before.primaryTimer)
    (ackTimer : after.ackTimer = before.ackTimer) (journal : after.journal = before.journal) :
    SameHolds before after :=
  ⟨locks, primaryTimer, ackTimer, [], history_of_journal journal, by simp⟩

theorem trans {first middle last : Bridge χ} (earlier : SameHolds first middle)
    (later : SameHolds middle last) : SameHolds first last := by
  obtain ⟨old, oldHistory, oldBeside⟩ := earlier.history
  obtain ⟨new, newHistory, newBeside⟩ := later.history
  refine ⟨later.locks.trans earlier.locks, later.primaryTimer.trans earlier.primaryTimer,
    later.ackTimer.trans earlier.ackTimer, old ++ new, ?_, ?_⟩
  · rw [newHistory, oldHistory, List.append_assoc]
  · intro effect member
    rcases List.mem_append.mp member with member | member
    · exact oldBeside effect member
    · exact newBeside effect member

end SameHolds

theorem sameHolds_emit (bridge : Bridge χ) {effects : List Effect}
    (beside : ∀ effect ∈ effects, effect.IsBesideLocks) :
    SameHolds bridge (bridge.emit effects) :=
  ⟨rfl, rfl, rfl, effects, history_emit bridge effects, beside⟩

theorem sameHolds_emit_one (bridge : Bridge χ) {effect : Effect}
    (beside : effect.IsBesideLocks) : SameHolds bridge (bridge.emit [effect]) := by
  apply sameHolds_emit
  intro other member
  rw [List.mem_singleton.mp member]
  exact beside

theorem sameHolds_recordOutcome (bridge : Bridge χ) (kind : RequestKind) (outcome : Outcome)
    (latency : Span) : SameHolds bridge (bridge.recordOutcome kind outcome latency) := by
  refine ⟨rfl, rfl, rfl, _, history_of_journal rfl, ?_⟩
  intro effect member
  simp only [List.mem_cons, List.not_mem_nil, or_false] at member
  rcases member with rfl | rfl <;> exact ⟨rfl, by simp⟩

theorem sameHolds_publishStatus (bridge : Bridge χ) (change : Option FaultStatus) :
    SameHolds bridge (bridge.publishStatus change) := by
  cases change with
  | none => exact .of_eq rfl rfl rfl rfl
  | some status =>
      apply sameHolds_emit
      intro effect member
      simp only [List.mem_cons, List.mem_map] at member
      rcases member with rfl | ⟨listener, -, rfl⟩ <;> exact ⟨rfl, by simp⟩

theorem sameHolds_withDetector (bridge : Bridge χ)
    (step : Option FaultStatus × FaultDetector) :
    SameHolds bridge (bridge.withDetector step) := by
  have moved : SameHolds bridge { bridge with detector := step.2 } := .of_eq rfl rfl rfl rfl
  exact moved.trans (sameHolds_publishStatus _ step.1)

/-! ## Steps -/

section

variable [Channel χ]

/-- One step at an instant, as far as locks and timers are concerned. -/
inductive LockStep (now : Instant) : Bridge χ → Bridge χ → Prop where
  | beside {before after : Bridge χ} (same : SameHolds before after) : LockStep now before after
  /-- A reference to the primary lock is taken, and the counter has room for it. -/
  | acquired {bridge : Bridge χ}
      (room : bridge.locks.primary.count.toNat + 1 < UInt32.size) :
      LockStep now bridge (bridge.acquireLock now)
  | released (bridge : Bridge χ) : LockStep now bridge (bridge.releaseLock now)
  | acknowledged (bridge : Bridge χ) : LockStep now bridge (bridge.sendAck now)
  /-- The live timer of the primary lock is due. -/
  | primaryFired {bridge : Bridge χ} {timer : LockTimer}
      (live : bridge.primaryTimer = some timer) (due : timer.deadline ≤ now) :
      LockStep now bridge ({ bridge with primaryTimer := none }.onLockTimer timer now)
  /-- The live timer of the ack lock is due. -/
  | ackFired {bridge : Bridge χ} {timer : LockTimer}
      (live : bridge.ackTimer = some timer) (due : timer.deadline ≤ now) :
      LockStep now bridge ({ bridge with ackTimer := none }.onLockTimer timer now)
  /-- Both locks are given back, and their timers end. -/
  | gaveBack (bridge : Bridge χ) :
      LockStep now bridge
        ({ bridge with
          locks := (bridge.locks.releaseAll now).1
          primaryTimer := none
          ackTimer := none }.emit (bridge.locks.releaseAll now).2)

/-- Some steps at one instant. -/
abbrev LockCourse (now : Instant) : Bridge χ → Bridge χ → Prop :=
  Relation.ReflTransGen (LockStep now)

theorem LockCourse.of_same {now : Instant} {before after : Bridge χ}
    (same : SameHolds before after) : LockCourse now before after :=
  .single (.beside same)

theorem lockCourse_releaseIf (bridge : Bridge χ) (held : Bool) (now : Instant) :
    LockCourse now bridge (bridge.releaseIf held now) := by
  cases held with
  | false => exact .refl
  | true => exact .single (.released bridge)

theorem lockCourse_finish (bridge : Bridge χ) (attempt : Attempt) (outcome : Outcome)
    (now : Instant) : LockCourse now bridge (bridge.finish attempt outcome now) := by
  have released := lockCourse_releaseIf bridge attempt.holdsLock now
  have told : SameHolds (bridge.releaseIf attempt.holdsLock now)
      (bridge.finish attempt outcome now) :=
    (sameHolds_recordOutcome _ attempt.kind outcome (attempt.latency now)).trans
      (sameHolds_emit_one _ ⟨rfl, by simp⟩)
  exact released.tail (.beside told)

theorem lockCourse_finishAll (bridge : Bridge χ) (attempts : List Attempt)
    (failure : RequestKind → Failure) (now : Instant) :
    LockCourse now bridge (bridge.finishAll attempts failure now) := by
  induction attempts generalizing bridge with
  | nil => exact .refl
  | cons attempt rest ih =>
      exact (lockCourse_finish bridge attempt (.failed (failure attempt.kind)) now).trans (ih _)

theorem lockCourse_sendAckIf (bridge : Bridge χ) (asked : Bool) (now : Instant) :
    LockCourse now bridge (bridge.sendAckIf asked now) := by
  cases asked with
  | false => exact .refl
  | true => exact .single (.acknowledged bridge)

/-! ## Requests and answers -/

theorem lockCourse_handOver {bridge : Bridge χ}
    (room : bridge.locks.primary.count.toNat + 1 < UInt32.size) (attempt : Attempt)
    (reply : SendReply) (channel : χ) (now : Instant) :
    LockCourse now bridge (bridge.handOver attempt reply channel now) := by
  have acquired : LockCourse now bridge (bridge.acquireLock now) := .single (.acquired room)
  have moved : SameHolds (bridge.acquireLock now)
      { bridge.acquireLock now with channel := channel } := .of_eq rfl rfl rfl rfl
  exact acquired.tail (.beside (moved.trans (sameHolds_emit_one _ ⟨rfl, by simp⟩)))

omit [Channel χ] in
theorem sameHolds_retrying (bridge : Bridge χ) (kind : RequestKind) (failed version : Version) :
    SameHolds bridge (bridge.retrying kind failed version) := by
  refine ⟨rfl, rfl, rfl, _, history_of_journal rfl, ?_⟩
  intro effect member
  rw [List.mem_singleton.mp member]
  exact ⟨rfl, by simp⟩

/-- A request is issued in steps that take and drop references. -/
theorem Issue.lockCourse {bridge after : Bridge χ} {attempt : Attempt} {now : Instant}
    {trace : List (Attempt × SendReply)} (issued : Issue now bridge attempt trace after)
    {inHand : Nat} (account : Accounted bridge inHand)
    (room : bridge.pending.size + inHand + attempt.kind.ladder.rungsBelow attempt.version + 1 <
      UInt32.size) :
    LockCourse now bridge after := by
  have rooms : ∀ {bridge : Bridge χ} {inHand below : Nat}, Accounted bridge inHand →
      bridge.pending.size + inHand + below + 1 < UInt32.size →
      bridge.locks.primary.count.toNat + 1 < UInt32.size := by
    intro bridge inHand below account room
    have holders := bridge.pending.lockHolders_le_size
    have references := account.references
    omega
  induction issued generalizing inHand with
  | @accepted bridge attempt pending channel spoken inserted replied =>
      have handed := lockCourse_handOver (rooms account room) attempt .accepted channel now
      refine handed.tail (.beside ⟨rfl, rfl, rfl, _, history_of_journal rfl, ?_⟩)
      intro effect member
      rw [List.mem_singleton.mp member]
      exact ⟨rfl, by simp⟩
  | @unavailable bridge attempt pending channel reason spoken inserted replied =>
      exact (lockCourse_handOver (rooms account room) attempt _ channel now).trans
        (lockCourse_finish _ attempt.holding _ now)
  | @exhausted bridge attempt pending channel spoken inserted replied lowest =>
      have lowered : SameHolds (bridge.handOver attempt .versionRefused channel now)
          ((bridge.handOver attempt .versionRefused channel now).lowered attempt.kind
            attempt.version) := .of_eq rfl rfl rfl rfl
      have handed := lockCourse_handOver (rooms account room) attempt .versionRefused channel now
      exact (handed.tail (.beside lowered)).trans (lockCourse_finish _ attempt.holding _ now)
  | @retried bridge after attempt pending channel version trace spoken inserted replied lower rest
      ih =>
      have holders := bridge.pending.lockHolders_le_size
      have counted := accounted_handOver account attempt .versionRefused channel now (by omega)
      have retrying := accounted_retrying counted attempt.kind attempt.version version
      obtain ⟨rung, below⟩ := VersionTable.next_of_current spoken lower
      have fewer := Ladder.rungsBelow_lt below rung
      have onward := ih retrying (by
        show (bridge.handOver attempt .versionRefused channel now).pending.size + (inHand + 1) +
          attempt.kind.ladder.rungsBelow version + 1 < UInt32.size
        rw [pending_handOver]
        omega)
      have handed := lockCourse_handOver (rooms account room) attempt .versionRefused channel now
      have retried := handed.tail
        (.beside (sameHolds_retrying _ attempt.kind attempt.version version))
      exact (retried.trans onward).tail (.released after)

theorem lockCourse_submit {bridge : Bridge χ} {submission : Submission} {now : Instant}
    (sound : (bridge.submit submission now).collision = none) (account : Accounted bridge 0)
    (room : bridge.pending.size + 1 + RequestKind.maxRungs < UInt32.size) :
    LockCourse now bridge (bridge.submit submission now) := by
  cases spoken : bridge.versions.current submission.kind with
  | none =>
      rw [submit_of_unspoken spoken]
      have recorded := sameHolds_recordOutcome bridge submission.kind
        (.failed (.unsupported submission.kind)) 0
      exact .of_same (recorded.trans (sameHolds_emit_one _ ⟨rfl, by simp⟩))
  | some version =>
      obtain ⟨trace, issued⟩ := submit_of_spoken spoken sound
      have rungs := Nat.le_trans (submission.kind.ladder.rungsBelow_le_length version)
        submission.kind.length_rungs_le
      apply issued.lockCourse account
      show bridge.pending.size + 0 + submission.kind.ladder.rungsBelow version + 1 < UInt32.size
      omega

theorem lockCourse_fallBack {bridge : Bridge χ} {attempt : Attempt} {failed : Version}
    {now : Instant} (sound : (bridge.fallBack attempt failed now).collision = none)
    (account : Accounted bridge attempt.holdsLock.toNat)
    (room : bridge.pending.size + 1 + RequestKind.maxRungs < UInt32.size) :
    LockCourse now bridge (bridge.fallBack attempt failed now) := by
  rcases fallBack_cases sound with ⟨lowest, course⟩ | ⟨version, trace, after, lower, issued, course⟩
  · have lowered : SameHolds bridge (bridge.lowered attempt.kind failed) := .of_eq rfl rfl rfl rfl
    rw [course]
    exact (LockCourse.of_same lowered).trans (lockCourse_finish _ attempt _ now)
  · have rungs := VersionTable.rungsBelow_next_lt_maxRungs lower
    have retrying := accounted_retrying account attempt.kind failed version
    have onward := issued.lockCourse retrying (by
      show bridge.pending.size + attempt.holdsLock.toNat +
        attempt.kind.ladder.rungsBelow version + 1 < UInt32.size
      have one := attempt.holdsLock.toNat_le
      omega)
    have retried : LockCourse now bridge (bridge.retrying attempt.kind failed version) :=
      .of_same (sameHolds_retrying bridge attempt.kind failed version)
    rw [course]
    exact (retried.trans onward).trans (lockCourse_releaseIf after attempt.holdsLock now)

theorem lockCourse_onAnswer {bridge : Bridge χ} {header : AnswerHeader} {payload : Payload}
    {now : Instant} (sound : (bridge.onAnswer header payload now).collision = none)
    (account : Accounted bridge 0)
    (room : bridge.pending.size + RequestKind.maxRungs < UInt32.size) :
    LockCourse now bridge (bridge.onAnswer header payload now) := by
  cases waiting : bridge.pending.find? header.serial with
  | none =>
      rw [onAnswer_of_stale waiting]
      refine .of_same ⟨rfl, rfl, rfl, _, history_of_journal rfl, ?_⟩
      intro effect member
      rw [List.mem_singleton.mp member]
      exact ⟨rfl, by simp⟩
  | some attempt =>
      have taken : LockCourse now bridge
          { bridge with pending := bridge.pending.erase header.serial } :=
        .of_same (.of_eq rfl rfl rfl rfl)
      have received := taken.trans (lockCourse_sendAckIf _ header.type.ackExpected now)
      have answered : LockCourse now bridge (bridge.answered attempt header now) :=
        received.tail (.beside (sameHolds_withDetector _ _))
      have inHand := accounted_answered waiting now account
      have size := PendingTable.size_erase waiting
      rw [onAnswer_of_waiting waiting] at sound ⊢
      split
      · rename_i refused
        rw [if_pos refused] at sound
        apply answered.trans
        apply lockCourse_fallBack sound inHand
        rw [(sameRequests_answered bridge attempt header now).pending]
        show (bridge.pending.erase header.serial).size + 1 + RequestKind.maxRungs < UInt32.size
        omega
      · split
        · exact answered.trans (lockCourse_finish _ attempt _ now)
        · exact answered.trans (lockCourse_finish _ attempt _ now)

/-! ## Timers, losses and the end -/

theorem lockCourse_firePrimaryTimer (bridge : Bridge χ) (now : Instant) :
    LockCourse now bridge (bridge.firePrimaryTimer now) := by
  unfold firePrimaryTimer
  split
  · exact .refl
  · rename_i timer live
    split
    · rename_i due
      exact .single (.primaryFired live due)
    · exact .refl

theorem lockCourse_fireAckTimer (bridge : Bridge χ) (now : Instant) :
    LockCourse now bridge (bridge.fireAckTimer now) := by
  unfold fireAckTimer
  split
  · exact .refl
  · rename_i timer live
    split
    · rename_i due
      exact .single (.ackFired live due)
    · exact .refl

theorem lockCourse_ageOut (bridge : Bridge χ) (now : Instant) :
    LockCourse now bridge (bridge.ageOut now) := by
  have taken : SameHolds bridge
      { bridge with pending := (bridge.pending.ageOut now bridge.maxAge).2 } :=
    .of_eq rfl rfl rfl rfl
  exact (LockCourse.of_same taken).trans (lockCourse_finishAll _ _ .timedOut now)

theorem lockCourse_fireDueTimers (bridge : Bridge χ) (now : Instant) :
    LockCourse now bridge (bridge.fireDueTimers now) := by
  have primary := lockCourse_firePrimaryTimer bridge now
  have ack := lockCourse_fireAckTimer (bridge.firePrimaryTimer now) now
  exact (primary.trans ack).trans (lockCourse_ageOut _ now)

theorem lockCourse_failAll (bridge : Bridge χ) (now : Instant) :
    LockCourse now bridge (bridge.failAll now) := by
  have taken : SameHolds bridge { bridge with pending := .empty } := .of_eq rfl rfl rfl rfl
  exact (LockCourse.of_same taken).trans (lockCourse_finishAll _ _ .channelUnavailable now)

theorem lockCourse_shutdown (bridge : Bridge χ) (now : Instant) :
    LockCourse now bridge (bridge.shutdown now) := by
  cases running : bridge.running with
  | false => rw [shutdown_of_stopped running]
  | true =>
      have ended := (lockCourse_failAll bridge now).tail (.gaveBack _)
      refine ended.tail (.beside ?_)
      simp only [shutdown, running, if_true]
      exact .of_eq rfl rfl rfl rfl

/-! ## Calls -/

theorem lockCourse_onIndication (bridge : Bridge χ) (indication : Indication) (now : Instant) :
    LockCourse now bridge (bridge.onIndication indication now) := by
  have counted : SameHolds bridge ({ bridge with totals := { bridge.totals with
      indications := bridge.totals.indications + 1 } }.measure .indicationReceived) := by
    refine ⟨rfl, rfl, rfl, _, history_of_journal rfl, ?_⟩
    intro effect member
    rw [List.mem_singleton.mp member]
    exact ⟨rfl, by simp⟩
  have received := Relation.ReflTransGen.trans (LockCourse.of_same counted)
    (lockCourse_sendAckIf _ indication.type.ackExpected now)
  refine received.tail (.beside (sameHolds_emit _ ?_))
  intro effect member
  obtain ⟨listener, -, rfl⟩ := List.mem_map.mp member
  exact ⟨rfl, by simp⟩

theorem lockCourse_react {bridge : Bridge χ} {now : Instant} {event : Event}
    (sound : (bridge.react now event).collision = none) (account : Accounted bridge 0)
    (room : bridge.pending.size + (EventLoop.submissions [event]).length + RequestKind.maxRungs <
      UInt32.size) :
    LockCourse now bridge (bridge.react now event) := by
  cases event with
  | submit submission => exact lockCourse_submit sound account room
  | answer header payload =>
      apply lockCourse_onAnswer sound account
      exact Nat.lt_of_le_of_lt (Nat.add_le_add_right (Nat.le_add_right _ _) _) room
  | requestAck serial => exact .of_same (.of_eq rfl rfl rfl rfl)
  | indication indication => exact lockCourse_onIndication bridge indication now
  | channelLost => exact lockCourse_failAll bridge now
  | channelRestarted => exact .of_same (sameHolds_withDetector bridge _)
  | listenIndications listener | listenStatus listener => exact .of_same (.of_eq rfl rfl rfl rfl)
  | shutdown => exact lockCourse_shutdown bridge now

theorem lockCourse_handleEach {bridge : Bridge χ} {now : Instant} {events : List Event}
    (sound : (bridge.handleEach now events).collision = none) (account : Accounted bridge 0)
    (room : bridge.pending.size + (EventLoop.submissions events).length + RequestKind.maxRungs <
      UInt32.size) :
    LockCourse now bridge (bridge.handleEach now events) := by
  have handled := handleEach_induction
    (fun rest after => LockCourse now bridge after ∧ Accounted after 0 ∧
      after.pending.size + (EventLoop.submissions rest).length + RequestKind.maxRungs <
        UInt32.size) ?_ sound ⟨.refl, account, room⟩
  · exact handled.1
  · rintro event rest middle - after ⟨course, account, room⟩
    rw [EventLoop.submissions_cons, List.length_append] at room
    have size := size_react_le after
    exact ⟨course.trans (lockCourse_react after account (by omega)),
      accounted_react after account (by omega), by omega⟩

/-- The events of a batch find the locks as the timers left them, with room in the counter. -/
theorem lockCourse_batch {bridge : Bridge χ} {events : List Event} {now : Instant}
    (sound : (bridge.handleBatch events now).collision = none) (account : Accounted bridge 0)
    (room : bridge.pending.size + (EventLoop.submissions events).length + RequestKind.maxRungs <
      UInt32.size) :
    LockCourse now (bridge.fireDueTimers now) (bridge.handleBatch events now) := by
  have size := size_fireDueTimers_le bridge now
  have ordered := (EventLoop.submissions_perm (Event.inPhaseOrder_perm events)).length_eq
  have handled : ((bridge.fireDueTimers now).handleEach now
      (Event.inPhaseOrder events)).collision = none := sound
  have course := lockCourse_handleEach handled (accounted_fireDueTimers account now) (by omega)
  exact course.tail (.beside (sameHolds_emit_one _ ⟨rfl, by simp⟩))

/-- A call at an instant is made of steps at this instant. -/
theorem lockCourse_call {bridge : Bridge χ} {call : Call χ} {now : Instant}
    (made : call.instant? = some now) (sound : (bridge.call call).collision = none)
    (account : Accounted bridge 0)
    (room : bridge.pending.size + call.submissions.length + RequestKind.maxRungs <
      UInt32.size) :
    LockCourse now bridge (bridge.call call) := by
  cases call with
  | batch events instant =>
      cases made
      exact (lockCourse_fireDueTimers bridge now).trans (lockCourse_batch sound account room)
  | timers instant =>
      cases made
      exact lockCourse_fireDueTimers bridge now
  | event event instant =>
      cases made
      have reacts : bridge.call (.event event now) = bridge.react now event :=
        handle_of_sound (collision_of_handle sound) now event
      rw [reacts] at sound ⊢
      exact lockCourse_react sound account room
  | sampled | serialTaken | channelChanged | indicationListenerLost | statusListenerLost =>
      simp [Call.instant?] at made

/-- What happens at no instant does not concern locks. -/
theorem sameHolds_call {bridge : Bridge χ} {call : Call χ} (made : call.instant? = none) :
    SameHolds bridge (bridge.call call) := by
  cases call with
  | batch | timers | event => simp [Call.instant?] at made
  | sampled => exact sameHolds_emit_one _ ⟨rfl, by simp⟩
  | serialTaken | channelChanged | indicationListenerLost | statusListenerLost =>
      exact .of_eq rfl rfl rfl rfl

end

end Bridge

end ModemLink
