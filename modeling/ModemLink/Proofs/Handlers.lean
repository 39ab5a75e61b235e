/-
Module: ModemLink.Proofs.Handlers
Purpose: What each handler leaves of the table, and whom it tells an outcome.
Main exports:
  bare, sameRequests_fireLockTimers, settles_ageOut, settles_failAll, settles_shutdown,
  sameRequests_onIndication
-/
import ModemLink.Proofs.Issue

namespace ModemLink

/-!
Timers, losses of the channel and shutdowns take attempts out of the table and fail them; the timer
of a lock and a confirmation from the modem only change marks on attempts that stay.  `bare` forgets
these marks.
-/

namespace Attempt

/-- The attempt without the marks that change while it waits. -/
def bare (attempt : Attempt) : Attempt :=
  { attempt with holdsLock := false, acknowledged := false }

@[simp] theorem ticket_bare (attempt : Attempt) : attempt.bare.ticket = attempt.ticket := rfl

end Attempt

namespace PendingTable

/-- The attempts of a table without their marks. -/
def bare (table : PendingTable) : List Attempt :=
  table.attempts.map Attempt.bare

@[simp] theorem bare_detachLocks (table : PendingTable) : table.detachLocks.bare = table.bare := by
  simp only [bare, detachLocks, map, List.map_map]
  rfl

@[simp] theorem bare_acknowledge (table : PendingTable) (serial : Serial) :
    (table.acknowledge serial).bare = table.bare := by
  simp only [bare, acknowledge, map, List.map_map]
  apply List.map_congr_left
  intro attempt _
  show (if attempt.serial = serial then _ else attempt).bare = attempt.bare
  split <;> rfl

/-- What does not depend on the marks is the same of tables that differ in marks only. -/
theorem map_attempts_of_bare {α : Type} {table other : PendingTable} {view : Attempt → α}
    (blind : ∀ attempt, view attempt.bare = view attempt) (same : table.bare = other.bare) :
    table.attempts.map view = other.attempts.map view := by
  have through : ∀ attempts : List Attempt,
      attempts.map view = (attempts.map Attempt.bare).map view := by
    intro attempts
    rw [List.map_map]
    exact List.map_congr_left fun attempt _ => (blind attempt).symm
  rw [through, through other.attempts]
  exact congrArg _ same

theorem mem_of_bare {table other : PendingTable} {attempt : Attempt}
    (same : table.bare = other.bare) (waits : attempt ∈ table.attempts) :
    ∃ waiting ∈ other.attempts, waiting.bare = attempt.bare := by
  have member : attempt.bare ∈ table.bare := List.mem_map.mpr ⟨attempt, waits, rfl⟩
  rw [same] at member
  exact List.mem_map.mp member

theorem size_of_bare {table other : PendingTable} (same : table.bare = other.bare) :
    table.size = other.size := by
  have lengths := congrArg List.length same
  simpa only [bare, size, List.length_map] using lengths

/-- Nothing is taken out of a table in which nothing waited too long. -/
theorem ageOut_of_young {table : PendingTable} {now : Instant} {maxAge : Span}
    (young : ∀ attempt ∈ table.attempts, isExpired now maxAge attempt = false) :
    table.ageOut now maxAge = ([], table) := by
  have none : table.attempts.filter (isExpired now maxAge) = [] := by
    apply List.filter_eq_nil_iff.mpr
    intro attempt waits
    simp [young attempt waits]
  have all : table.filter (fun attempt => !isExpired now maxAge attempt) = table := by
    apply ext_attempts
    apply List.filter_eq_self.mpr
    intro attempt waits
    simp [young attempt waits]
  rw [ageOut, none, all, inOrder, List.mergeSort_nil]

end PendingTable

namespace Bridge

variable {χ : Type}

/-! ## Timers -/

theorem onLockTimer_of_timedOut {bridge : Bridge χ} {timer : LockTimer} {now : Instant}
    {outstanding : UInt32} {locks : WakeLocks} {effects : List Effect}
    (judged : bridge.locks.onTimer timer now = (.timedOut outstanding, locks, effects)) :
    bridge.onLockTimer timer now =
      ({ bridge with
        pending := bridge.pending.detachLocks
        locks := locks
        totals := { bridge.totals with
          lockTimeouts := bridge.totals.lockTimeouts + 1 } }.emit effects).withDetector
        (bridge.detector.onLockTimeout now) := by
  simp only [onLockTimer, judged]
  rfl

theorem onLockTimer_of_not_timedOut {bridge : Bridge χ} {timer : LockTimer} {now : Instant}
    {expiry : LockExpiry} {locks : WakeLocks} {effects : List Effect}
    (judged : bridge.locks.onTimer timer now = (expiry, locks, effects))
    (kept : ∀ outstanding, expiry ≠ .timedOut outstanding) :
    bridge.onLockTimer timer now = { bridge with locks := locks }.emit effects := by
  cases expiry with
  | stale => simp only [onLockTimer, judged]
  | released => simp only [onLockTimer, judged]
  | timedOut outstanding => exact absurd rfl (kept outstanding)

/-- A timer of a lock changes marks at most. -/
theorem sameRequests_onLockTimer (bridge : Bridge χ) (timer : LockTimer) (now : Instant) :
    ∃ pending, pending.bare = bridge.pending.bare ∧
      SameRequests { bridge with pending := pending } (bridge.onLockTimer timer now) := by
  have asides := WakeLocks.asides_onTimer bridge.locks timer now
  cases judged : bridge.locks.onTimer timer now with
  | mk expiry rest =>
      rw [judged] at asides
      by_cases timedOut : ∃ outstanding, expiry = .timedOut outstanding
      · obtain ⟨outstanding, rfl⟩ := timedOut
        refine ⟨bridge.pending.detachLocks, bridge.pending.bare_detachLocks, ?_⟩
        rw [onLockTimer_of_timedOut judged]
        refine .trans ?_ (sameRequests_withDetector _ _)
        exact ⟨rfl, rfl, rfl, rfl, rfl, rfl, _, history_of_journal rfl, asides⟩
      · refine ⟨bridge.pending, rfl, ?_⟩
        rw [onLockTimer_of_not_timedOut judged fun outstanding same =>
          timedOut ⟨outstanding, same⟩]
        exact ⟨rfl, rfl, rfl, rfl, rfl, rfl, _, history_of_journal rfl, asides⟩

theorem sameRequests_firePrimaryTimer (bridge : Bridge χ) (now : Instant) :
    ∃ pending, pending.bare = bridge.pending.bare ∧
      SameRequests { bridge with pending := pending } (bridge.firePrimaryTimer now) := by
  unfold firePrimaryTimer
  split
  · exact ⟨_, rfl, .refl bridge⟩
  · split
    · obtain ⟨pending, bare, same⟩ := sameRequests_onLockTimer
        { bridge with primaryTimer := none } _ now
      exact ⟨pending, bare, same.maxAge, same.serials, same.pending, same.versions, same.running,
        same.collision, same.history⟩
    · exact ⟨_, rfl, .refl bridge⟩

theorem sameRequests_fireAckTimer (bridge : Bridge χ) (now : Instant) :
    ∃ pending, pending.bare = bridge.pending.bare ∧
      SameRequests { bridge with pending := pending } (bridge.fireAckTimer now) := by
  unfold fireAckTimer
  split
  · exact ⟨_, rfl, .refl bridge⟩
  · split
    · obtain ⟨pending, bare, same⟩ := sameRequests_onLockTimer
        { bridge with ackTimer := none } _ now
      exact ⟨pending, bare, same.maxAge, same.serials, same.pending, same.versions, same.running,
        same.collision, same.history⟩
    · exact ⟨_, rfl, .refl bridge⟩

/-- Firing the timers of the locks changes marks at most. -/
theorem sameRequests_fireLockTimers (bridge : Bridge χ) (now : Instant) :
    ∃ pending, pending.bare = bridge.pending.bare ∧
      SameRequests { bridge with pending := pending }
        ((bridge.firePrimaryTimer now).fireAckTimer now) := by
  obtain ⟨first, firstBare, firstSame⟩ := sameRequests_firePrimaryTimer bridge now
  obtain ⟨second, secondBare, secondSame⟩ :=
    sameRequests_fireAckTimer (bridge.firePrimaryTimer now) now
  refine ⟨second, ?_, ?_⟩
  · rw [secondBare, firstSame.pending, firstBare]
  · exact (firstSame.withPending second).trans secondSame

/-- The failure that an attempt hears that waited too long. -/
def expired (attempt : Attempt) : Ticket × Outcome :=
  (attempt.ticket, .failed (.timedOut attempt.kind))

theorem settles_ageOut (bridge : Bridge χ) (now : Instant) :
    Settles { bridge with pending := (bridge.pending.ageOut now bridge.maxAge).2 }
      (bridge.ageOut now) ((bridge.pending.ageOut now bridge.maxAge).1.map expired) :=
  settles_finishAll _ _ .timedOut now

/-! ## Losses and the end -/

theorem settles_failAll (bridge : Bridge χ) (now : Instant) :
    Settles { bridge with pending := .empty } (bridge.failAll now)
      ((PendingTable.inOrder bridge.pending.attempts).map dropped) :=
  settles_finishAll _ _ .channelUnavailable now

theorem shutdown_of_stopped {bridge : Bridge χ} (stopped : bridge.running = false)
    (now : Instant) : bridge.shutdown now = bridge := by
  simp [shutdown, stopped]

theorem settles_shutdown {bridge : Bridge χ} (running : bridge.running = true) (now : Instant) :
    Settles { bridge with pending := .empty, running := false } (bridge.shutdown now)
      ((PendingTable.inOrder bridge.pending.attempts).map dropped) := by
  have failed := settles_failAll bridge now
  obtain ⟨effects, grown, handed, told⟩ := failed.history
  have asides := WakeLocks.asides_releaseAll (bridge.failAll now).locks now
  simp only [shutdown, running, if_true]
  refine ⟨failed.maxAge, failed.serials, failed.pending, failed.versions, rfl, failed.collision,
    effects ++ ((bridge.failAll now).locks.releaseAll now).2, ?_, ?_, ?_⟩
  · rw [history_emit, ← List.append_assoc]
    exact congrArg (· ++ _) grown
  · rw [List.filterMap_append, handed, Effect.handovers_of_asides asides, List.append_nil]
  · rw [List.filterMap_append, told, Effect.outcomes_of_asides asides, List.append_nil]

/-! ## Events that do not concern requests -/

theorem sameRequests_onIndication [Channel χ] (bridge : Bridge χ) (indication : Indication)
    (now : Instant) : SameRequests bridge (bridge.onIndication indication now) := by
  have counted : SameRequests bridge ({ bridge with totals := { bridge.totals with
      indications := bridge.totals.indications + 1 } }.measure .indicationReceived) := by
    refine ⟨rfl, rfl, rfl, rfl, rfl, rfl, _, history_of_journal rfl, ?_⟩
    intro effect member
    rw [List.mem_singleton.mp member]
    exact ⟨rfl, rfl⟩
  apply (counted.trans (sameRequests_sendAckIf _ indication.type.ackExpected now)).trans
  apply sameRequests_emit
  intro effect member
  obtain ⟨listener, -, rfl⟩ := List.mem_map.mp member
  exact ⟨rfl, rfl⟩

/-- The count of an answer that nothing waited for. -/
def countStale (bridge : Bridge χ) : Bridge χ :=
  { bridge with
    totals := { bridge.totals with staleAnswers := bridge.totals.staleAnswers + 1 } }.measure
      .staleAnswer

theorem sameRequests_onAnswer_of_stale [Channel χ] {bridge : Bridge χ} {header : AnswerHeader}
    (stale : bridge.pending.find? header.serial = none) (payload : Payload) (now : Instant) :
    SameRequests bridge (bridge.onAnswer header payload now) := by
  rw [onAnswer_of_stale stale]
  refine ⟨rfl, rfl, rfl, rfl, rfl, rfl, _, history_of_journal rfl, ?_⟩
  intro effect member
  rw [List.mem_singleton.mp member]
  exact ⟨rfl, rfl⟩

theorem sameRequests_listenIndications (bridge : Bridge χ) (listener : ListenerId) :
    SameRequests bridge (bridge.listenIndications listener) :=
  ⟨rfl, rfl, rfl, rfl, rfl, rfl, [], (List.append_nil _).symm, by simp⟩

theorem sameRequests_listenStatus (bridge : Bridge χ) (listener : ListenerId) :
    SameRequests bridge (bridge.listenStatus listener) :=
  ⟨rfl, rfl, rfl, rfl, rfl, rfl, [], (List.append_nil _).symm, by simp⟩

/-! ## What requests and answers keep -/

section

variable [Channel χ]

theorem keeps_submit {bridge : Bridge χ} {submission : Submission} {now : Instant}
    (sound : (bridge.submit submission now).collision = none) :
    (bridge.submit submission now).maxAge = bridge.maxAge ∧
      (bridge.submit submission now).running = bridge.running := by
  cases spoken : bridge.versions.current submission.kind with
  | none =>
      have settles := settles_submit_of_unspoken spoken now
      exact ⟨settles.maxAge, settles.running⟩
  | some version =>
      obtain ⟨trace, issued⟩ := submit_of_spoken spoken sound
      exact ⟨issued.ends.maxAge, issued.ends.running⟩

theorem keeps_onAnswer {bridge : Bridge χ} {header : AnswerHeader} {payload : Payload}
    {now : Instant} (sound : (bridge.onAnswer header payload now).collision = none) :
    (bridge.onAnswer header payload now).maxAge = bridge.maxAge ∧
      (bridge.onAnswer header payload now).running = bridge.running := by
  cases current : bridge.pending.find? header.serial with
  | none =>
      have same := sameRequests_onAnswer_of_stale current payload now
      exact ⟨same.maxAge, same.running⟩
  | some attempt =>
      have same := sameRequests_answered bridge attempt header now
      have finished : ∀ outcome,
          ((bridge.answered attempt header now).finish attempt outcome now).maxAge =
              bridge.maxAge ∧
            ((bridge.answered attempt header now).finish attempt outcome now).running =
              bridge.running := by
        intro outcome
        have settles := settles_finish (bridge.answered attempt header now) attempt outcome now
        exact ⟨settles.maxAge.trans same.maxAge, settles.running.trans same.running⟩
      rw [onAnswer_of_waiting current] at sound ⊢
      split
      · rename_i refused
        rw [if_pos refused] at sound
        rcases fallBack_cases sound with ⟨lowest, course⟩ |
          ⟨version, trace, after, lower, issued, course⟩
        · have settles := settles_finish ((bridge.answered attempt header now).lowered attempt.kind
            attempt.version) attempt (.failed (.unsupported attempt.kind)) now
          rw [course, settles.maxAge, settles.running, maxAge_lowered, running_lowered]
          exact ⟨same.maxAge, same.running⟩
        · have released := sameRequests_releaseIf after attempt.holdsLock now
          rw [course, released.maxAge, released.running, issued.ends.maxAge, issued.ends.running,
            maxAge_retrying, running_retrying]
          exact ⟨same.maxAge, same.running⟩
      · split
        · exact finished _
        · exact finished _

end

end Bridge

end ModemLink
