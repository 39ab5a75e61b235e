/-
Module: ModemLink.Proofs.Latency
Purpose: The time that is sampled when a request ends, through all its retries.
Main exports:
  Ending, Effect.isEnding, Bridge.endings, Beginning, Quiet, Clocked, clocked_call, Begun,
  begun_run, latency_from_submission
-/
import Mathlib.Data.List.Induction
import ModemLink.Proofs.LockSteps
import ModemLink.Proofs.Run

namespace ModemLink

/-!
An attempt knows since when its caller waits: from the submission on, or from the first issue where
the submission is stamped later.  A retry overwrites when the attempt itself was issued and carries
this instant along, and whatever ends the request samples the time from it.  `Clocked now known`
says of a step at `now` that it ends requests of `known` beginnings only, each with the time since
then; a run keeps the beginnings of all that waits among those of requests that were handed in.  One
path has no attempt to ask: a request of a kind without a version is told so at once, and the time
that is sampled for it is zero.
-/

/-! ## Ends -/

/-- The end of a request: the time that is sampled for it, and what its caller is told. -/
structure Ending where
  kind : RequestKind
  span : Span
  ticket : Ticket
  outcome : Outcome
deriving DecidableEq

/-- An end as the world sees it. -/
def Ending.effects (ending : Ending) : List Effect :=
  [.measured (.latency ending.kind ending.span), .settled ending.ticket ending.outcome]

/-- Whether this effect belongs to the end of a request. -/
def Effect.isEnding : Effect → Bool
  | measured (.latency _ _) | settled _ _ => true
  | _ => false

/-- What is about a lock ends no request. -/
theorem Effect.isEnding_of_lock {effect : Effect} {lock : LockId}
    (about : effect.lock? = some lock) : effect.isEnding = false := by
  cases effect with
  | settled => simp [lock?] at about
  | measured measurement =>
      cases measurement with
      | latency => simp [lock?] at about
      | submitted | completed | fallback | staleAnswer | pendingCount | lockAcquired | lockTimedOut
      | lockHeld | ackSent | indicationReceived | statusChanged => rfl
  | lockTaken | lockGivenBack | handed | acknowledged | indicated | statusTold => rfl

/-- A request and the instant since when its caller waits. -/
structure Beginning where
  ticket : Ticket
  kind : RequestKind
  since : Instant
deriving DecidableEq

/-- Since when the caller of an attempt waits. -/
def Attempt.beginning (attempt : Attempt) : Beginning :=
  ⟨attempt.ticket, attempt.kind, attempt.firstSubmittedAt⟩

theorem Attempt.beginning_of_bare {attempt other : Attempt} (same : attempt.bare = other.bare) :
    attempt.beginning = other.beginning := by
  have bare : attempt.bare.beginning = other.bare.beginning := congrArg beginning same
  exact bare

/-- Since when the caller of a submission waits, when it is issued at `now`. -/
def Submission.beginning (submission : Submission) (now : Instant) : Beginning :=
  ⟨submission.ticket, submission.kind, min submission.submittedAt now⟩

/-- This request ends at `now`, with the time since it began. -/
structure Ending.Ends (ending : Ending) (beginning : Beginning) (now : Instant) : Prop where
  ticket : ending.ticket = beginning.ticket
  kind : ending.kind = beginning.kind
  span : ending.span = now.since beginning.since

namespace Bridge

variable {χ : Type}

/-- The ends of requests so far. -/
def endings (bridge : Bridge χ) : List Effect :=
  bridge.history.filter Effect.isEnding

/-- All that waits began in a known way. -/
def Within (known : Beginning → Prop) (bridge : Bridge χ) : Prop :=
  ∀ attempt ∈ bridge.pending.attempts, known attempt.beginning

/-! ## Steps that end nothing -/

/-- The same requests wait, and none ended. -/
structure Quiet (before after : Bridge χ) : Prop where
  pending : after.pending.bare = before.pending.bare
  endings : after.endings = before.endings

namespace Quiet

theorem of_grown {before after : Bridge χ} (effects : List Effect)
    (pending : after.pending.bare = before.pending.bare)
    (grown : after.journal = effects.reverse ++ before.journal)
    (quiet : ∀ effect ∈ effects, effect.isEnding = false) : Quiet before after := by
  refine ⟨pending, ?_⟩
  have none : effects.filter Effect.isEnding = [] :=
    List.filter_eq_nil_iff.mpr fun effect member => by simp [quiet effect member]
  rw [Bridge.endings, history_of_journal grown, List.filter_append, none, List.append_nil]
  rfl

theorem of_eq {before after : Bridge χ} (pending : after.pending.bare = before.pending.bare)
    (journal : after.journal = before.journal) : Quiet before after :=
  .of_grown [] pending journal (by simp)

theorem refl (bridge : Bridge χ) : Quiet bridge bridge :=
  ⟨rfl, rfl⟩

theorem trans {first middle last : Bridge χ} (earlier : Quiet first middle)
    (later : Quiet middle last) : Quiet first last :=
  ⟨later.pending.trans earlier.pending, later.endings.trans earlier.endings⟩

end Quiet

theorem quiet_measure (bridge : Bridge χ) {measurement : Measurement}
    (quiet : (Effect.measured measurement).isEnding = false) :
    Quiet bridge (bridge.measure measurement) :=
  .of_grown _ rfl rfl (by simpa using quiet)

theorem quiet_schedule (bridge : Bridge χ) (timer : LockTimer) :
    Quiet bridge (bridge.schedule timer) := by
  unfold schedule
  split <;> exact .of_eq rfl rfl

theorem quiet_acquireLock (bridge : Bridge χ) (now : Instant) :
    Quiet bridge (bridge.acquireLock now) := by
  have quiet : ∀ effect ∈ (bridge.locks.acquire now).2.2, effect.isEnding = false :=
    fun effect member => Effect.isEnding_of_lock (WakeLocks.lock_of_mem_acquire member)
  unfold acquireLock
  split
  · rename_i timer locks effects acquired
    rw [acquired] at quiet
    refine .trans ?_ (quiet_schedule _ timer)
    exact .of_grown _ rfl rfl quiet
  · rename_i locks effects acquired
    rw [acquired] at quiet
    exact .of_grown _ rfl rfl quiet

theorem quiet_releaseLock (bridge : Bridge χ) (now : Instant) :
    Quiet bridge (bridge.releaseLock now) :=
  .of_grown (bridge.locks.release now).2 rfl rfl fun _ member =>
    Effect.isEnding_of_lock (WakeLocks.lock_of_mem_release member)

theorem quiet_releaseIf (bridge : Bridge χ) (held : Bool) (now : Instant) :
    Quiet bridge (bridge.releaseIf held now) := by
  cases held with
  | false => exact .refl bridge
  | true => exact quiet_releaseLock bridge now

theorem quiet_withDetector (bridge : Bridge χ) (step : Option FaultStatus × FaultDetector) :
    Quiet bridge (bridge.withDetector step) := by
  obtain ⟨change, detector⟩ := step
  cases change with
  | none => exact .of_eq rfl rfl
  | some status =>
      refine .of_grown (.measured (.statusChanged status) ::
        bridge.statusListeners.map fun listener => .statusTold listener status) rfl rfl ?_
      intro effect member
      simp only [List.mem_cons, List.mem_map] at member
      rcases member with rfl | ⟨listener, -, rfl⟩ <;> rfl

theorem quiet_onTimer (locks : WakeLocks) (timer : LockTimer) (now : Instant) :
    ∀ effect ∈ (locks.onTimer timer now).2.2, effect.isEnding = false := by
  have expired : ∀ lock : WakeLock,
      ∀ effect ∈ (lock.expire timer.generation now).2.2, effect.isEnding = false :=
    fun lock effect member => Effect.isEnding_of_lock (WakeLock.lock_of_mem_expire member)
  unfold WakeLocks.onTimer
  intro effect member
  split at member
  · have quiet := expired locks.primary
    split at member
    · rename_i fired
      rw [fired] at quiet
      rcases List.mem_append.mp member with released | counted
      · exact quiet effect released
      · rw [List.mem_singleton.mp counted]
        rfl
    · exact absurd member List.not_mem_nil
  · have quiet := expired locks.ack
    split at member
    · rename_i fired
      rw [fired] at quiet
      exact quiet effect member
    · exact absurd member List.not_mem_nil

theorem quiet_onLockTimer (bridge : Bridge χ) (timer : LockTimer) (now : Instant) :
    Quiet bridge (bridge.onLockTimer timer now) := by
  have quiet := quiet_onTimer bridge.locks timer now
  cases judged : bridge.locks.onTimer timer now with
  | mk expiry rest =>
      rw [judged] at quiet
      cases expiry with
      | timedOut outstanding =>
          rw [onLockTimer_of_timedOut judged]
          refine .trans ?_ (quiet_withDetector _ _)
          exact .of_grown _ (PendingTable.bare_detachLocks _) rfl quiet
      | stale | released =>
          rw [onLockTimer_of_not_timedOut judged (by simp)]
          exact .of_grown _ rfl rfl quiet

theorem quiet_firePrimaryTimer (bridge : Bridge χ) (now : Instant) :
    Quiet bridge (bridge.firePrimaryTimer now) := by
  unfold firePrimaryTimer
  split
  · exact .refl bridge
  · split
    · refine .trans ?_ (quiet_onLockTimer _ _ now)
      exact .of_eq rfl rfl
    · exact .refl bridge

theorem quiet_fireAckTimer (bridge : Bridge χ) (now : Instant) :
    Quiet bridge (bridge.fireAckTimer now) := by
  unfold fireAckTimer
  split
  · exact .refl bridge
  · split
    · refine .trans ?_ (quiet_onLockTimer _ _ now)
      exact .of_eq rfl rfl
    · exact .refl bridge

theorem quiet_handOver (bridge : Bridge χ) (attempt : Attempt) (reply : SendReply) (channel : χ)
    (now : Instant) : Quiet bridge (bridge.handOver attempt reply channel now) := by
  apply (quiet_acquireLock bridge now).trans
  exact .of_grown [.handed attempt.outbound reply] rfl rfl (by simp [Effect.isEnding])

theorem quiet_retrying (bridge : Bridge χ) (kind : RequestKind) (failed version : Version) :
    Quiet bridge (bridge.retrying kind failed version) :=
  .of_grown [.measured (.fallback kind failed version)] rfl rfl
    (by simp [Effect.isEnding])

section

variable [Channel χ]

theorem quiet_sendAck (bridge : Bridge χ) (now : Instant) : Quiet bridge (bridge.sendAck now) := by
  rcases reply : Channel.sendAck bridge.channel with ⟨_ | reason, channel⟩
  · rw [sendAck_of_accepted reply]
    refine .trans ?_ (quiet_schedule _ (bridge.locks.holdForAck now).1)
    refine .of_grown _ rfl rfl ?_
    intro effect member
    rcases List.mem_cons.mp member with rfl | rest
    · rfl
    · rcases List.mem_cons.mp rest with rfl | held
      · rfl
      · exact Effect.isEnding_of_lock (WakeLocks.lock_of_mem_holdForAck held)
  · rw [sendAck_of_refused reply]
    exact .of_grown [.acknowledged false] rfl rfl (by simp [Effect.isEnding])

theorem quiet_sendAckIf (bridge : Bridge χ) (asked : Bool) (now : Instant) :
    Quiet bridge (bridge.sendAckIf asked now) := by
  cases asked with
  | false => exact .refl bridge
  | true => exact quiet_sendAck bridge now

theorem quiet_onIndication (bridge : Bridge χ) (indication : Indication) (now : Instant) :
    Quiet bridge (bridge.onIndication indication now) := by
  have counted : Quiet bridge ({ bridge with totals := { bridge.totals with
      indications := bridge.totals.indications + 1 } }.measure .indicationReceived) :=
    .of_grown [.measured .indicationReceived] rfl rfl (by simp [Effect.isEnding])
  apply (counted.trans (quiet_sendAckIf _ indication.type.ackExpected now)).trans
  refine .of_grown _ rfl rfl ?_
  intro effect member
  obtain ⟨listener, -, rfl⟩ := List.mem_map.mp member
  rfl

end

/-! ## Steps that end requests -/

/-- If all that waits before began in a known way, so did all that waits after; and the requests
that ended in between began in a known way, and the times that were sampled are those since then. -/
structure Clocked (now : Instant) (known : Beginning → Prop) (before after : Bridge χ) :
    Prop where
  within : before.Within known → after.Within known
  ended : before.Within known → ∃ ended : List Ending,
    after.endings = before.endings ++ ended.flatMap Ending.effects ∧
    ∀ ending ∈ ended, ∃ beginning, known beginning ∧ ending.Ends beginning now

variable {now : Instant} {known : Beginning → Prop}

theorem Quiet.within {before after : Bridge χ} (quiet : Quiet before after)
    (within : before.Within known) : after.Within known := by
  intro attempt waits
  obtain ⟨earlier, waited, same⟩ := PendingTable.mem_of_bare quiet.pending waits
  rw [← Attempt.beginning_of_bare same]
  exact within earlier waited

theorem Quiet.clocked {before after : Bridge χ} (quiet : Quiet before after) :
    Clocked now known before after := by
  refine ⟨quiet.within, fun _ => ⟨[], ?_, by simp⟩⟩
  rw [quiet.endings, List.flatMap_nil, List.append_nil]

namespace Clocked

theorem refl (bridge : Bridge χ) : Clocked now known bridge bridge :=
  (Quiet.refl bridge).clocked

theorem trans {first middle last : Bridge χ} (earlier : Clocked now known first middle)
    (later : Clocked now known middle last) : Clocked now known first last := by
  refine ⟨fun within => later.within (earlier.within within), fun within => ?_⟩
  obtain ⟨old, oldEndings, oldKnown⟩ := earlier.ended within
  obtain ⟨new, newEndings, newKnown⟩ := later.ended (earlier.within within)
  refine ⟨old ++ new, ?_, ?_⟩
  · rw [newEndings, oldEndings, List.flatMap_append, List.append_assoc]
  · intro ending member
    rcases List.mem_append.mp member with before | after
    · exact oldKnown ending before
    · exact newKnown ending after

/-- Some of what waits is taken out of the table, or something known is put into it. -/
theorem withPending (bridge : Bridge χ) {pending : PendingTable}
    (waiting : ∀ attempt ∈ pending.attempts,
      known attempt.beginning ∨ attempt ∈ bridge.pending.attempts) :
    Clocked now known bridge { bridge with pending := pending } := by
  refine ⟨?_, fun _ => ⟨[], (List.append_nil _).symm, by simp⟩⟩
  intro within attempt waits
  rcases waiting attempt waits with isKnown | waited
  · exact isKnown
  · exact within attempt waited

end Clocked

/-- The end of a request whose beginning is known. -/
theorem clocked_finish (bridge : Bridge χ) (attempt : Attempt) (isKnown : known attempt.beginning)
    (outcome : Outcome) : Clocked now known bridge (bridge.finish attempt outcome now) := by
  refine (quiet_releaseIf bridge attempt.holdsLock now).clocked.trans ?_
  have grown : (bridge.finish attempt outcome now).history =
      (bridge.releaseIf attempt.holdsLock now).history ++
        [.measured (.completed attempt.kind outcome.outcomeClass),
          .measured (.latency attempt.kind (attempt.latency now)),
          .settled attempt.ticket outcome] := history_of_journal rfl
  refine ⟨fun within => within, fun _ =>
    ⟨[⟨attempt.kind, attempt.latency now, attempt.ticket, outcome⟩], ?_, ?_⟩⟩
  · rw [endings, grown, List.filter_append]
    rfl
  · intro ending member
    rw [List.mem_singleton.mp member]
    exact ⟨attempt.beginning, isKnown, rfl, rfl, rfl⟩

theorem clocked_finishAll (bridge : Bridge χ) {attempts : List Attempt}
    (allKnown : ∀ attempt ∈ attempts, known attempt.beginning) (failure : RequestKind → Failure) :
    Clocked now known bridge (bridge.finishAll attempts failure now) := by
  induction attempts generalizing bridge with
  | nil => exact .refl bridge
  | cons attempt rest ih =>
      obtain ⟨first, later⟩ := List.forall_mem_cons.mp allKnown
      have one : Clocked now known bridge
          (bridge.finish attempt (.failed (failure attempt.kind)) now) :=
        clocked_finish bridge attempt first _
      exact one.trans (ih _ later)

/-- Attempts that waited are taken out of the table together and fail. -/
theorem clocked_taken (bridge : Bridge χ) {taken : List Attempt} {pending : PendingTable}
    (waited : ∀ attempt ∈ taken, attempt ∈ bridge.pending.attempts)
    (left : ∀ attempt ∈ pending.attempts, attempt ∈ bridge.pending.attempts)
    (failure : RequestKind → Failure) :
    Clocked now known bridge ({ bridge with pending := pending }.finishAll taken failure now) := by
  have removed : Clocked now known bridge { bridge with pending := pending } :=
    .withPending bridge fun attempt waits => .inr (left attempt waits)
  -- what was taken is known only if all that waited was
  constructor
  · intro within
    exact (removed.trans (clocked_finishAll _
      (fun attempt member => within attempt (waited attempt member)) failure)).within within
  · intro within
    exact (removed.trans (clocked_finishAll _
      (fun attempt member => within attempt (waited attempt member)) failure)).ended within

theorem clocked_ageOut (bridge : Bridge χ) : Clocked now known bridge (bridge.ageOut now) := by
  apply clocked_taken
  · intro attempt member
    exact (List.mem_filter.mp ((PendingTable.inOrder_perm _).mem_iff.mp member)).1
  · exact fun attempt member => (List.mem_filter.mp member).1

theorem clocked_fireDueTimers (bridge : Bridge χ) :
    Clocked now known bridge (bridge.fireDueTimers now) :=
  ((quiet_firePrimaryTimer bridge now).trans (quiet_fireAckTimer _ now)).clocked.trans
    (clocked_ageOut _)

theorem clocked_failAll (bridge : Bridge χ) : Clocked now known bridge (bridge.failAll now) := by
  apply clocked_taken
  · exact fun attempt member => (PendingTable.inOrder_perm _).mem_iff.mp member
  · exact fun attempt member => absurd member List.not_mem_nil

theorem clocked_shutdown (bridge : Bridge χ) : Clocked now known bridge (bridge.shutdown now) := by
  cases running : bridge.running with
  | false =>
      rw [shutdown_of_stopped running]
      exact .refl bridge
  | true =>
      apply (clocked_failAll bridge).trans
      simp only [shutdown, running, if_true]
      refine Quiet.clocked (.of_grown _ rfl rfl ?_)
      intro effect member
      rcases List.mem_append.mp member with primary | ack
      · exact Effect.isEnding_of_lock (WakeLock.lock_of_mem_clear primary)
      · exact Effect.isEnding_of_lock (WakeLock.lock_of_mem_clear ack)

section

variable [Channel χ]

theorem clocked_of_dealt {bridge after : Bridge χ} {attempt : Attempt}
    (isKnown : known attempt.beginning)
    (spoken : bridge.versions.current attempt.kind = some attempt.version)
    (dealt : bridge.offer attempt now = (none, after)) : Clocked now known bridge after := by
  cases inserted : bridge.pending.insert? attempt.holding with
  | none =>
      rw [offer_of_not_inserted inserted] at dealt
      cases dealt
      exact Quiet.clocked ((quiet_acquireLock bridge now).trans (.of_eq rfl rfl))
  | some pending =>
      cases replied : Channel.send bridge.channel attempt.outbound with
      | mk reply channel =>
          rw [offer_of_inserted spoken inserted replied] at dealt
          have handed : Clocked now known bridge (bridge.handOver attempt reply channel now) :=
            (quiet_handOver bridge attempt reply channel now).clocked
          cases reply with
          | accepted =>
              cases dealt
              have put : Clocked now known (bridge.handOver attempt .accepted channel now)
                  { bridge.handOver attempt .accepted channel now with pending := pending } := by
                apply Clocked.withPending
                intro waiting member
                rw [PendingTable.attempts_insert? inserted] at member
                rw [pending_handOver]
                rcases List.mem_cons.mp member with rfl | earlier
                · exact .inl isKnown
                · exact .inr earlier
              refine (handed.trans put).trans (Quiet.clocked ?_)
              exact .of_grown [.measured (.submitted attempt.kind attempt.version)]
                rfl rfl (by simp [Effect.isEnding])
          | unavailable reason =>
              cases dealt
              exact handed.trans (clocked_finish _ attempt.holding isKnown _)
          | versionRefused => simp at dealt

/-- A retry carries the beginning of its request along. -/
theorem clocked_issue (bridge : Bridge χ) (attempt : Attempt) (now : Instant)
    (isKnown : known attempt.beginning)
    (spoken : bridge.versions.current attempt.kind = some attempt.version) :
    Clocked now known bridge (bridge.issue attempt now) := by
  fun_induction issue bridge attempt now with
  | case1 bridge attempt after dealt => exact clocked_of_dealt isKnown spoken dealt
  | case2 bridge attempt refused version middle refusal after retreated =>
      obtain ⟨pending, channel, -, -, rfl, rfl, rfl⟩ := offer_eq_some spoken refusal
      obtain ⟨-, rfl⟩ := retreat_eq_none retreated
      refine (quiet_handOver bridge attempt .versionRefused channel now).clocked.trans ?_
      refine Clocked.trans ?_ (clocked_finish _ attempt.holding isKnown _)
      exact Quiet.clocked (.of_eq rfl rfl)
  | case3 bridge attempt refused version middle refusal next retried retreated ih =>
      obtain ⟨pending, channel, -, -, rfl, rfl, rfl⟩ := offer_eq_some spoken refusal
      obtain ⟨lower, next_eq, rfl, rfl⟩ := retreat_eq_some retreated
      have issued := ih isKnown (current_retrying next_eq)
      refine (quiet_handOver bridge attempt .versionRefused channel now).clocked.trans ?_
      refine (quiet_retrying _ _ _ lower).clocked.trans (issued.trans ?_)
      exact (quiet_releaseIf _ _ now).clocked

theorem clocked_fallBack (bridge : Bridge χ) {attempt : Attempt} (isKnown : known attempt.beginning)
    (failed : Version) : Clocked now known bridge (bridge.fallBack attempt failed now) := by
  unfold fallBack
  cases retreated : bridge.retreat attempt failed now with
  | mk retry after =>
      cases retry with
      | none =>
          obtain ⟨-, rfl⟩ := retreat_eq_none retreated
          refine Clocked.trans ?_ (clocked_finish _ attempt isKnown _)
          exact Quiet.clocked (.of_eq rfl rfl)
      | some next =>
          obtain ⟨lower, next_eq, rfl, rfl⟩ := retreat_eq_some retreated
          have issued := clocked_issue (bridge.retrying attempt.kind failed lower)
            (attempt.reissue bridge.serials.take.1 lower now) now isKnown (current_retrying next_eq)
          refine (quiet_retrying bridge attempt.kind failed lower).clocked.trans (issued.trans ?_)
          exact (quiet_releaseIf _ attempt.holdsLock now).clocked

/-- An answer ends a request that waited, or has it tried again. -/
theorem clocked_onAnswer (bridge : Bridge χ) (header : AnswerHeader) (payload : Payload) :
    Clocked now known bridge (bridge.onAnswer header payload now) := by
  cases waiting : bridge.pending.find? header.serial with
  | none =>
      rw [onAnswer_of_stale waiting]
      exact Quiet.clocked (.of_grown [.measured .staleAnswer] rfl rfl
        (by simp [Effect.isEnding]))
  | some attempt =>
      have waited := PendingTable.mem_attempts_of_find? waiting
      have removed : Clocked now known bridge
          { bridge with pending := bridge.pending.erase header.serial } :=
        .withPending bridge fun left member => .inr (List.mem_filter.mp member).1
      have answered : Clocked now known bridge (bridge.answered attempt header now) :=
        removed.trans ((quiet_sendAckIf _ header.type.ackExpected now).trans
          (quiet_withDetector _ _)).clocked
      have whole : known attempt.beginning →
          Clocked now known bridge (bridge.onAnswer header payload now) := by
        intro isKnown
        rw [onAnswer_of_waiting waiting]
        split
        · exact answered.trans (clocked_fallBack _ isKnown _)
        · split <;> exact answered.trans (clocked_finish _ attempt isKnown _)
      exact ⟨fun within => (whole (within attempt waited)).within within,
        fun within => (whole (within attempt waited)).ended within⟩

/-! ## Calls -/

/-- What an event does, unless it is a request of a kind that is not spoken. -/
theorem clocked_react (bridge : Bridge χ) (event : Event)
    (fresh : ∀ submission, event = .submit submission →
      bridge.versions.current submission.kind ≠ none ∧ known (submission.beginning now)) :
    Clocked now known bridge (bridge.react now event) := by
  cases event with
  | submit submission =>
      obtain ⟨usable, isKnown⟩ := fresh submission rfl
      obtain ⟨version, spoken⟩ := Option.ne_none_iff_exists'.mp usable
      simp only [react, submit, spoken]
      exact clocked_issue bridge (.ofSubmission submission version now) now isKnown spoken
  | answer header payload => exact clocked_onAnswer bridge header payload
  | requestAck serial =>
      exact Quiet.clocked (.of_eq (PendingTable.bare_acknowledge _ serial) rfl)
  | indication indication => exact (quiet_onIndication bridge indication now).clocked
  | channelLost => exact clocked_failAll bridge
  | channelRestarted => exact (quiet_withDetector bridge _).clocked
  | listenIndications | listenStatus => exact Quiet.clocked (.of_eq rfl rfl)
  | shutdown => exact clocked_shutdown bridge

/-- A call without an instant ends nothing. -/
theorem quiet_call (bridge : Bridge χ) {call : Call χ} (made : call.instant? = none) :
    Quiet bridge (bridge.call call) := by
  cases call with
  | batch | timers | event => simp [Call.instant?] at made
  | sampled => exact quiet_measure bridge rfl
  | serialTaken | channelChanged | indicationListenerLost | statusListenerLost =>
      exact .of_eq rfl rfl

/-- What a call at an instant does that is no batch, unless it hands in a request of a kind that is
not spoken. -/
theorem clocked_call (bridge : Bridge χ) {call : Call χ} (made : call.instant? = some now)
    (single : ∀ events time, call ≠ .batch events time)
    (fresh : ∀ submission, call = .event (.submit submission) now → bridge.collision = none →
      bridge.versions.current submission.kind ≠ none ∧ known (submission.beginning now)) :
    Clocked now known bridge (bridge.call call) := by
  cases call with
  | batch events time => exact absurd rfl (single events time)
  | timers time =>
      cases made
      exact clocked_fireDueTimers bridge
  | event event time =>
      cases made
      cases collided : bridge.collision with
      | some attempt =>
          simp only [call, handle, collided, Option.isSome_some, if_true]
          exact .refl bridge
      | none =>
          rw [call, handle_of_sound collided]
          exact clocked_react bridge event fun submission same =>
            fresh submission (same ▸ rfl) collided
  | sampled | serialTaken | channelChanged | indicationListenerLost | statusListenerLost =>
      cases made

/-- A request of a kind that is not spoken ends at once, and the time that is sampled is zero. -/
theorem endings_of_unspoken {bridge : Bridge χ} (sound : bridge.collision = none)
    {submission : Submission} (unspoken : bridge.versions.current submission.kind = none)
    (now : Instant) :
    (bridge.call (.event (.submit submission) now)).pending = bridge.pending ∧
    (bridge.call (.event (.submit submission) now)).endings = bridge.endings ++ Ending.effects
      ⟨submission.kind, 0, submission.ticket, .failed (.unsupported submission.kind)⟩ := by
  have done : bridge.call (.event (.submit submission) now) =
      (bridge.recordOutcome submission.kind (.failed (.unsupported submission.kind)) 0).emit
        [.settled submission.ticket (.failed (.unsupported submission.kind))] := by
    rw [call, handle_of_sound sound]
    exact submit_of_unspoken unspoken now
  have grown : (bridge.call (.event (.submit submission) now)).history = bridge.history ++
      [.measured (.completed submission.kind .unsupported), .measured (.latency submission.kind 0),
        .settled submission.ticket (.failed (.unsupported submission.kind))] := by
    rw [done]
    exact history_of_journal rfl
  refine ⟨by rw [done]; rfl, ?_⟩
  rw [endings, grown, List.filter_append]
  rfl

/-! ## Runs -/

/-- So began a request that one of some steps handed in when its kind was spoken. -/
def Begun (start : Bridge χ) (steps : List (Call χ)) (beginning : Beginning) : Prop :=
  ∃ first submission begun rest, steps = first ++ .event (.submit submission) begun :: rest ∧
    (start.run first).versions.current submission.kind ≠ none ∧
    beginning = submission.beginning begun

theorem Begun.append {start : Bridge χ} {steps : List (Call χ)} {beginning : Beginning}
    (isBegun : start.Begun steps beginning) (more : List (Call χ)) :
    start.Begun (steps ++ more) beginning := by
  obtain ⟨first, submission, begun, rest, split, spoken, same⟩ := isBegun
  refine ⟨first, submission, begun, rest ++ more, ?_, spoken, same⟩
  rw [split, List.append_assoc, List.cons_append]

/-- One step more: what waits after it began in one of the steps, and so did what it ends, unless it
hands in a request of a kind that is not spoken. -/
theorem clocked_next {start : Bridge χ} {earlier : List (Call χ)} {step : Call χ}
    (single : ∀ events now, step ≠ .batch events now)
    (within : (start.run earlier).Within (start.Begun earlier)) :
    ((start.run earlier).call step).Within (start.Begun (earlier ++ [step])) ∧
    ∃ ended : List Ending,
      ((start.run earlier).call step).endings =
        (start.run earlier).endings ++ ended.flatMap Ending.effects ∧
      ∀ ending ∈ ended, ∃ now, step.instant? = some now ∧
        ((∃ beginning, start.Begun (earlier ++ [step]) beginning ∧ ending.Ends beginning now) ∨
          ∃ submission, step = .event (.submit submission) now ∧
            (start.run earlier).versions.current submission.kind = none ∧
            ending = ⟨submission.kind, 0, submission.ticket,
              .failed (.unsupported submission.kind)⟩) := by
  have before : (start.run earlier).Within (start.Begun (earlier ++ [step])) :=
    fun attempt waits => (within attempt waits).append [step]
  cases made : step.instant? with
  | none =>
      have quiet := quiet_call (start.run earlier) made
      refine ⟨quiet.within before, [], ?_, by simp⟩
      rw [quiet.endings, List.flatMap_nil, List.append_nil]
  | some now =>
      by_cases immediate : ∃ submission, step = .event (.submit submission) now ∧
        (start.run earlier).versions.current submission.kind = none ∧
        (start.run earlier).collision = none
      · obtain ⟨submission, rfl, unspoken, sound⟩ := immediate
        obtain ⟨pending, endings⟩ := endings_of_unspoken sound unspoken now
        refine ⟨?_, [_], endings.trans (by rw [List.flatMap_singleton]), ?_⟩
        · intro attempt waits
          rw [pending] at waits
          exact before attempt waits
        · intro ending member
          rw [List.mem_singleton.mp member]
          exact ⟨now, rfl, .inr ⟨submission, rfl, unspoken, rfl⟩⟩
      · have clocked : Clocked now (start.Begun (earlier ++ [step])) (start.run earlier)
            ((start.run earlier).call step) := by
          refine clocked_call _ made single ?_
          rintro submission rfl sound
          have spoken : (start.run earlier).versions.current submission.kind ≠ none :=
            fun unspoken => immediate ⟨submission, rfl, unspoken, sound⟩
          exact ⟨spoken, earlier, submission, now, [], rfl, spoken, rfl⟩
        obtain ⟨ended, endings, known⟩ := clocked.ended before
        refine ⟨clocked.within before, ended, endings, ?_⟩
        intro ending member
        exact ⟨now, rfl, .inl (known ending member)⟩

/-- In a run that starts with nothing waiting, all that waits began in one of the steps. -/
theorem begun_run {start : Bridge χ} (empty : start.pending.attempts = []) {steps : List (Call χ)}
    (single : ∀ step ∈ steps, ∀ events now, step ≠ .batch events now) :
    (start.run steps).Within (start.Begun steps) := by
  induction steps using List.reverseRecOn with
  | nil =>
      intro attempt waits
      have none : attempt ∈ start.pending.attempts := waits
      rw [empty] at none
      exact absurd none List.not_mem_nil
  | append_singleton earlier step ih =>
      have within := ih fun other member => single other (List.mem_append_left [step] member)
      have alone := single step (List.mem_append_right earlier List.mem_cons_self)
      rw [run_append]
      exact (clocked_next alone within).1

/-- In every run, a step that ends requests samples one time for each, right before its caller is
told.  Each such request was handed in before, or in this very step.  If its kind had a version
then, the time is that from its submission on, or from its first issue where the submission is
stamped later, whatever ends the request and however often it was tried at which instants.  If its
kind had none, the request ends in the step that handed it in, and the time is zero, however long
ago the submission was. -/
theorem latency_from_submission (config : BridgeConfig) (serials : SerialSource) (channel : χ)
    (calls earlier later : List (Call χ)) (step : Call χ)
    (split : calls.flatMap Call.steps = earlier ++ step :: later) :
    let start := new config serials channel
    ∃ ended : List Ending,
      ((start.run earlier).call step).endings =
        (start.run earlier).endings ++ ended.flatMap Ending.effects ∧
      ∀ ending ∈ ended, ∃ first submission begun rest now,
        earlier ++ [step] = first ++ .event (.submit submission) begun :: rest ∧
        step.instant? = some now ∧
        ending.ticket = submission.ticket ∧ ending.kind = submission.kind ∧
        ((start.run first).versions.current submission.kind ≠ none →
          ending.span = now.since (min submission.submittedAt begun)) ∧
        ((start.run first).versions.current submission.kind = none →
          rest = [] ∧ ending.outcome = .failed (.unsupported submission.kind) ∧
            ending.span = 0) := by
  intro start
  have single : ∀ other ∈ earlier ++ step :: later, ∀ events now, other ≠ .batch events now := by
    intro other member
    rw [← split] at member
    exact not_batch_of_mem_run member
  have within : (start.run earlier).Within (start.Begun earlier) :=
    begun_run rfl fun other member => single other (List.mem_append_left _ member)
  have alone := single step (List.mem_append_right earlier List.mem_cons_self)
  obtain ⟨-, ended, endings, each⟩ := clocked_next alone within
  refine ⟨ended, endings, ?_⟩
  intro ending member
  obtain ⟨now, made, ⟨beginning, ⟨first, submission, begun, rest, whole, spoken, rfl⟩, ends⟩ |
    ⟨submission, rfl, unspoken, rfl⟩⟩ := each ending member
  · exact ⟨first, submission, begun, rest, now, whole, made, ends.ticket, ends.kind,
      fun _ => ends.span, fun unspoken => absurd unspoken spoken⟩
  · exact ⟨earlier, submission, now, [], now, rfl, made, rfl, rfl,
      fun spoken => absurd unspoken spoken, fun _ => ⟨rfl, rfl, rfl⟩⟩

/-- A request is handed in at 100 and issued at 250, refused at its version at 300 and tried again
at the next one, where it is answered at 1250. -/
theorem latency_from_submission_past_retry :
    let calls : List (Call RecordingChannel) :=
      [.batch [.submit ⟨⟨1⟩, .sendSms, .empty, .unknown, 100, 7⟩] 250,
        .batch [.answer (.plain ⟨1⟩ .sendSms .requestNotSupported) .empty] 300,
        .event (.answer (.plain ⟨2⟩ .sendSms .success) .empty) 1250]
    let start : Bridge RecordingChannel := new {} (.start 2) {}
    let earlier := (calls.take 2).flatMap Call.steps
    let last : Call RecordingChannel :=
      .event (.answer (.plain ⟨2⟩ .sendSms .success) .empty) 1250
    ∃ ended : List Ending, ended.flatMap Ending.effects =
        [.measured (.latency .sendSms 1150), .settled 7 (.ok .empty)] ∧
      ∀ ending ∈ ended, ∃ first submission begun rest now,
        earlier ++ [last] = first ++ .event (.submit submission) begun :: rest ∧
        last.instant? = some now ∧
        ending.ticket = submission.ticket ∧ ending.kind = submission.kind ∧
        ((start.run first).versions.current submission.kind ≠ none →
          ending.span = now.since (min submission.submittedAt begun)) ∧
        ((start.run first).versions.current submission.kind = none →
          rest = [] ∧ ending.outcome = .failed (.unsupported submission.kind) ∧
            ending.span = 0) := by
  intro calls start earlier last
  have split : calls.flatMap Call.steps = earlier ++ last :: [] := rfl
  obtain ⟨ended, endings, each⟩ := latency_from_submission {} (.start 2) ({} : RecordingChannel)
    calls earlier [] last split
  refine ⟨ended, ?_, each⟩
  have before : (start.run earlier).endings = [] := by decide +kernel
  have after : ((start.run earlier).call last).endings =
      [.measured (.latency .sendSms 1150), .settled 7 (.ok .empty)] := by decide +kernel
  rw [before, List.nil_append] at endings
  exact endings.symm.trans after

/-- A request of a kind that has no version below the cap waits five seconds to be handled, and the
time that is sampled for it is zero. -/
theorem latency_zero_without_version :
    let submission : Submission := ⟨⟨1⟩, .getBarringInfo, .empty, .unknown, 0, 7⟩
    let bridge := (new { versionCap := some ⟨1, 0⟩ } (.start 2) ({} : RecordingChannel)).run
      [.batch [.submit submission] 5000000]
    bridge.endings = [.measured (.latency .getBarringInfo 0),
      .settled 7 (.failed (.unsupported .getBarringInfo))] ∧
      Instant.since 5000000 submission.submittedAt = 5000000 := by
  exact ⟨by decide +kernel, rfl⟩

end

end Bridge

end ModemLink
