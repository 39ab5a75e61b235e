/-
Module: ModemLink.Proofs.Wakeups
Purpose: What is left to do when the earliest deadline of a bridge has come.
Main exports: Bridge.IsDeadline, nextDeadline?_eq_some_iff, TimerDue, Progress, wakeup_works_off
-/
import ModemLink.Proofs.Teardown

namespace ModemLink

/-!
A bridge shows the earliest of its deadlines so that the loop in front of it knows when to wake up:
the live timers of the two locks have one each, and every attempt has one, at which its allowed age
is reached.  A timer is due at its deadline.  An attempt is not: at the instant at which its age
reaches the bound it still waits, and only a later wakeup takes it out.  So when the earliest
deadline comes from an attempt, the wakeup at that very instant does nothing.
-/

namespace PendingTable

theorem oldest?_eq_some_iff {table : PendingTable} {oldest : Instant} :
    table.oldest? = some oldest ↔
      (∃ attempt ∈ table.attempts, attempt.issuedAt = oldest) ∧
        ∀ attempt ∈ table.attempts, oldest ≤ attempt.issuedAt := by
  simp [oldest?, List.min?_eq_some_iff]

theorem oldest?_eq_none_iff {table : PendingTable} :
    table.oldest? = none ↔ table.attempts = [] := by
  simp [oldest?]

end PendingTable

namespace Bridge

variable {χ : Type} {bridge : Bridge χ}

/-! ## Deadlines -/

/-- An instant at which a live timer is due or an attempt reaches its allowed age. -/
inductive IsDeadline (bridge : Bridge χ) : Instant → Prop where
  | primary {timer : LockTimer} (live : bridge.primaryTimer = some timer) :
      IsDeadline bridge timer.deadline
  | ack {timer : LockTimer} (live : bridge.ackTimer = some timer) :
      IsDeadline bridge timer.deadline
  | age {attempt : Attempt} (waits : attempt ∈ bridge.pending.attempts) :
      IsDeadline bridge (attempt.issuedAt + bridge.maxAge)

/-- The instants that the bridge compares. -/
def deadlines (bridge : Bridge χ) : List Instant :=
  [bridge.primaryTimer.map LockTimer.deadline, bridge.ackTimer.map LockTimer.deadline,
    bridge.pending.oldest?.map (· + bridge.maxAge)].filterMap id

theorem mem_deadlines {due : Instant} :
    due ∈ bridge.deadlines ↔
      (∃ timer, bridge.primaryTimer = some timer ∧ timer.deadline = due) ∨
      (∃ timer, bridge.ackTimer = some timer ∧ timer.deadline = due) ∨
      ∃ oldest, bridge.pending.oldest? = some oldest ∧ oldest + bridge.maxAge = due := by
  simp only [deadlines, List.mem_filterMap, List.mem_cons, List.not_mem_nil, or_false, id_eq,
    exists_eq_right, eq_comm (a := some due), Option.map_eq_some_iff]

theorem isDeadline_of_mem {due : Instant} (compared : due ∈ bridge.deadlines) :
    bridge.IsDeadline due := by
  rcases mem_deadlines.mp compared with ⟨timer, live, rfl⟩ | ⟨timer, live, rfl⟩ |
    ⟨oldest, first, rfl⟩
  · exact .primary live
  · exact .ack live
  · obtain ⟨⟨attempt, waits, rfl⟩, -⟩ := PendingTable.oldest?_eq_some_iff.mp first
    exact .age waits

/-- No deadline comes before all those that are compared: the oldest attempt stands for all. -/
theorem exists_le_of_isDeadline {due : Instant} (deadline : bridge.IsDeadline due) :
    ∃ compared ∈ bridge.deadlines, compared ≤ due := by
  cases deadline with
  | primary live => exact ⟨_, mem_deadlines.mpr (.inl ⟨_, live, rfl⟩), Nat.le_refl _⟩
  | ack live => exact ⟨_, mem_deadlines.mpr (.inr (.inl ⟨_, live, rfl⟩)), Nat.le_refl _⟩
  | @age attempt waits =>
      cases first : bridge.pending.oldest? with
      | none =>
          rw [PendingTable.oldest?_eq_none_iff.mp first] at waits
          exact absurd waits List.not_mem_nil
      | some oldest =>
          refine ⟨_, mem_deadlines.mpr (.inr (.inr ⟨oldest, first, rfl⟩)), ?_⟩
          exact Nat.add_le_add_right ((PendingTable.oldest?_eq_some_iff.mp first).2 _ waits) _

/-- The bridge shows the earliest of its deadlines. -/
theorem nextDeadline?_eq_some_iff {next : Instant} :
    bridge.nextDeadline? = some next ↔
      bridge.IsDeadline next ∧ ∀ due, bridge.IsDeadline due → next ≤ due := by
  show bridge.deadlines.min? = some next ↔ _
  rw [List.min?_eq_some_iff]
  constructor
  · rintro ⟨compared, least⟩
    refine ⟨isDeadline_of_mem compared, ?_⟩
    intro due deadline
    obtain ⟨earlier, among, before⟩ := exists_le_of_isDeadline deadline
    exact Nat.le_trans (least earlier among) before
  · rintro ⟨deadline, least⟩
    obtain ⟨earlier, among, before⟩ := exists_le_of_isDeadline deadline
    cases Nat.le_antisymm before (least earlier (isDeadline_of_mem among))
    exact ⟨among, fun due other => least due (isDeadline_of_mem other)⟩

/-! ## Work at a wakeup -/

/-- A live timer of one of the locks is due. -/
def TimerDue (bridge : Bridge χ) (now : Instant) : Prop :=
  (∃ timer ∈ bridge.primaryTimer, timer.deadline ≤ now) ∨
    ∃ timer ∈ bridge.ackTimer, timer.deadline ≤ now

instance (now : Instant) : Decidable (bridge.TimerDue now) :=
  inferInstanceAs (Decidable (_ ∨ _))

/-- Between two bridges some work was done: a live timer fired, or attempts left the table. -/
def Progress (before after : Bridge χ) : Prop :=
  (before.primaryTimer.isSome ∧ after.primaryTimer = none) ∨
    (before.ackTimer.isSome ∧ after.ackTimer = none) ∨ after.pending.size < before.pending.size

instance (before after : Bridge χ) : Decidable (Progress before after) :=
  inferInstanceAs (Decidable (_ ∨ _ ∨ _))

theorem primaryTimer_firePrimaryTimer {timer : LockTimer} {now : Instant}
    (live : bridge.primaryTimer = some timer) (due : timer.deadline ≤ now) :
    (bridge.firePrimaryTimer now).primaryTimer = none := by
  simp only [firePrimaryTimer, live, if_pos due]
  exact (locks_onLockTimer _ timer now).2.1

theorem ackTimer_fireAckTimer {timer : LockTimer} {now : Instant}
    (live : bridge.ackTimer = some timer) (due : timer.deadline ≤ now) :
    (bridge.fireAckTimer now).ackTimer = none := by
  simp only [fireAckTimer, live, if_pos due]
  exact (locks_onLockTimer _ timer now).2.2

theorem ackTimer_firePrimaryTimer (bridge : Bridge χ) (now : Instant) :
    (bridge.firePrimaryTimer now).ackTimer = bridge.ackTimer := by
  unfold firePrimaryTimer
  split
  · rfl
  · split
    · exact (locks_onLockTimer _ _ now).2.2
    · rfl

theorem primaryTimer_fireAckTimer (bridge : Bridge χ) (now : Instant) :
    (bridge.fireAckTimer now).primaryTimer = bridge.primaryTimer := by
  unfold fireAckTimer
  split
  · rfl
  · split
    · exact (locks_onLockTimer _ _ now).2.1
    · rfl

/-- The end of attempts may end the timer of the primary lock, and does not start it. -/
theorem primaryTimer_finishAll (attempts : List Attempt) (failure : RequestKind → Failure)
    (now : Instant) (ended : bridge.primaryTimer = none) :
    (bridge.finishAll attempts failure now).primaryTimer = none := by
  induction attempts generalizing bridge with
  | nil => exact ended
  | cons attempt rest ih =>
      have one : (bridge.finish attempt (.failed (failure attempt.kind)) now).primaryTimer =
          none := by
        unfold finish releaseIf
        split
        · simp [releaseLock, recordOutcome, emit, ended]
        · exact ended
      exact ih one

/-- A live timer that is due fires. -/
theorem progress_of_timerDue {now : Instant} (due : bridge.TimerDue now) :
    Progress bridge (bridge.fireDueTimers now) := by
  rcases due with ⟨timer, live, due⟩ | ⟨timer, live, due⟩
  · refine .inl ⟨Option.isSome_of_mem live, primaryTimer_finishAll _ _ now ?_⟩
    show ((bridge.firePrimaryTimer now).fireAckTimer now).primaryTimer = none
    rw [primaryTimer_fireAckTimer, primaryTimer_firePrimaryTimer live due]
  · refine .inr (.inl ⟨Option.isSome_of_mem live, (beside_finishAll _ _ _ now).2.2.trans ?_⟩)
    show ((bridge.firePrimaryTimer now).fireAckTimer now).ackTimer = none
    exact ackTimer_fireAckTimer ((ackTimer_firePrimaryTimer bridge now).trans live) due

/-- What waits after the timers is what waited before and is not too old, marks apart. -/
theorem bare_fireDueTimers (bridge : Bridge χ) (now : Instant) :
    (bridge.fireDueTimers now).pending.bare =
      (bridge.pending.attempts.filter fun attempt =>
        now ≤ attempt.issuedAt + bridge.maxAge).map Attempt.bare := by
  obtain ⟨pending, bare, same⟩ := sameRequests_fireLockTimers bridge now
  have table : ((bridge.firePrimaryTimer now).fireAckTimer now).pending = pending := same.pending
  have span : ((bridge.firePrimaryTimer now).fireAckTimer now).maxAge = bridge.maxAge := same.maxAge
  rw [fireDueTimers, (settles_ageOut _ now).pending, PendingTable.ageOut, table, span]
  have marks : ∀ attempts : List Attempt,
      (attempts.filter fun attempt => now ≤ attempt.issuedAt + bridge.maxAge).map Attempt.bare =
        (attempts.map Attempt.bare).filter fun attempt =>
          now ≤ attempt.issuedAt + bridge.maxAge := by
    intro attempts
    rw [List.filter_map]
    rfl
  have kept : (pending.filter fun attempt =>
      !PendingTable.isExpired now bridge.maxAge attempt).attempts =
        pending.attempts.filter fun attempt => now ≤ attempt.issuedAt + bridge.maxAge := by
    apply List.filter_congr
    intro attempt _
    simp only [PendingTable.isExpired_eq, ← decide_not, Nat.not_lt]
  rw [PendingTable.bare, kept, marks, marks]
  exact congrArg (List.filter _) bare

/-- An attempt that is too old is taken out. -/
theorem progress_of_overdue {now : Instant} {attempt : Attempt}
    (waits : attempt ∈ bridge.pending.attempts) (late : attempt.issuedAt + bridge.maxAge < now) :
    Progress bridge (bridge.fireDueTimers now) := by
  refine .inr (.inr ?_)
  have kept := congrArg List.length (bare_fireDueTimers bridge now)
  rw [PendingTable.bare, List.length_map, List.length_map] at kept
  rw [PendingTable.size, kept]
  apply Nat.lt_of_le_of_ne (List.length_filter_le _ _)
  intro all
  have young := List.length_filter_eq_length_iff.mp all attempt waits
  simp only [decide_eq_true_eq] at young
  exact Nat.not_lt_of_le young late

/-! ## Wakeups of a bridge -/

section

variable [Channel χ]

omit [Channel χ] in
/-- At its earliest deadline a bridge without a due timer has nothing to do. -/
theorem fireDueTimers_of_nextDeadline {now : Instant} (next : bridge.nextDeadline? = some now)
    (quiet : ¬ bridge.TimerDue now) : bridge.fireDueTimers now = bridge := by
  obtain ⟨-, least⟩ := nextDeadline?_eq_some_iff.mp next
  apply fireDueTimers_of_idle
  · exact fun timer live => Nat.lt_of_not_le fun due => quiet (.inl ⟨timer, live, due⟩)
  · exact fun timer live => Nat.lt_of_not_le fun due => quiet (.inr ⟨timer, live, due⟩)
  · exact fun attempt waits => least _ (.age waits)

omit [Channel χ] in
/-- Past its earliest deadline a bridge has something to do, and at it if a timer is due. -/
theorem progress_of_nextDeadline {deadline now : Instant}
    (next : bridge.nextDeadline? = some deadline) (due : bridge.TimerDue now ∨ deadline < now) :
    Progress bridge (bridge.fireDueTimers now) := by
  rcases due with timer | past
  · exact progress_of_timerDue timer
  · cases (nextDeadline?_eq_some_iff.mp next).1 with
    | primary live => exact progress_of_timerDue (.inl ⟨_, live, Nat.le_of_lt past⟩)
    | ack live => exact progress_of_timerDue (.inr ⟨_, live, Nat.le_of_lt past⟩)
    | age waits => exact progress_of_overdue waits past

omit [Channel χ] in
/-- Once the timers have fired no deadline is past, and one is reached just where the age of an
attempt reaches the bound. -/
theorem isDeadline_fireDueTimers (time : bridge.locks.GiveTime) (now : Instant) {due : Instant}
    (deadline : (bridge.fireDueTimers now).IsDeadline due) :
    now ≤ due ∧ (due = now →
      ∃ attempt ∈ bridge.pending.attempts, attempt.issuedAt + bridge.maxAge = now) := by
  have calm := calm_fireDueTimers time now
  cases deadline with
  | primary live =>
      have later := calm.primary _ live
      exact ⟨Nat.le_of_lt later, fun reached => absurd reached (Nat.ne_of_gt later)⟩
  | ack live =>
      have later := calm.ack _ live
      exact ⟨Nat.le_of_lt later, fun reached => absurd reached (Nat.ne_of_gt later)⟩
  | age waits =>
      refine ⟨calm.young _ waits, ?_⟩
      intro reached
      obtain ⟨earlier, waited, same, -⟩ := mem_fireDueTimers waits
      rw [(timely_fireDueTimers bridge now).maxAge, ← Attempt.issuedAt_of_bare same] at reached
      exact ⟨earlier, waited, reached⟩

omit [Channel χ] in
/-- An attempt whose age reaches the bound at the instant of the timers waits on, so that this very
instant is a deadline still. -/
theorem isDeadline_of_age {attempt : Attempt} (waits : attempt ∈ bridge.pending.attempts)
    {now : Instant} (age : attempt.issuedAt + bridge.maxAge = now) :
    (bridge.fireDueTimers now).IsDeadline now := by
  have there : attempt.bare ∈ (bridge.fireDueTimers now).pending.bare := by
    rw [bare_fireDueTimers]
    exact List.mem_map_of_mem (List.mem_filter.mpr ⟨waits, by simp [age]⟩)
  obtain ⟨left, waitsOn, same⟩ := List.mem_map.mp there
  have deadline : (bridge.fireDueTimers now).IsDeadline _ := .age waitsOn
  rwa [Attempt.issuedAt_of_bare same, (timely_fireDueTimers bridge now).maxAge, age] at deadline

/-- Under settings that make sense, when the earliest deadline of a bridge has come: if it is past,
or if the timer of a lock is due, then the timers do some work; and if it has come just now and no
timer is due, then they do nothing at all.  No deadline is past afterwards, and the earliest one is
this very instant just where the age of an attempt reaches its bound at it. -/
theorem wakeup_works_off (config : BridgeConfig) (valid : config.validate = .ok ())
    (serials : SerialSource) (channel : χ) (calls : List (Call χ)) (bridge : Bridge χ)
    (reached : bridge = (new config serials channel).run calls) (deadline now : Instant)
    (next : bridge.nextDeadline? = some deadline) (come : deadline ≤ now) :
    (bridge.TimerDue now ∨ deadline < now → Progress bridge (bridge.fireDueTimers now)) ∧
    (¬ (bridge.TimerDue now ∨ deadline < now) → bridge.fireDueTimers now = bridge) ∧
    ∀ later, (bridge.fireDueTimers now).nextDeadline? = some later →
      now ≤ later ∧ (later = now ↔
        ∃ attempt ∈ bridge.pending.attempts, attempt.issuedAt + bridge.maxAge = now) := by
  have time : bridge.locks.GiveTime := reached ▸ giveTime_run valid serials channel calls
  refine ⟨progress_of_nextDeadline next, ?_, ?_⟩
  · intro idle
    obtain ⟨quiet, early⟩ := not_or.mp idle
    cases Nat.le_antisymm come (Nat.le_of_not_lt early)
    exact fireDueTimers_of_nextDeadline next quiet
  · intro later after
    obtain ⟨shown, least⟩ := nextDeadline?_eq_some_iff.mp after
    obtain ⟨notPast, aged⟩ := isDeadline_fireDueTimers time now shown
    refine ⟨notPast, aged, ?_⟩
    rintro ⟨attempt, waits, age⟩
    exact Nat.le_antisymm (least now (isDeadline_of_age waits age)) notPast

/-- A millisecond after the first of two requests, half a millisecond after the second, the first is
at its bound; a microsecond later it times out. -/
theorem wakeup_works_off_late :
    let calls : List (Call RecordingChannel) :=
      [.batch [.submit ⟨⟨1⟩, .sendSms, .empty, .unknown, 0, 0⟩] 0,
        .batch [.submit ⟨⟨2⟩, .sendSms, .empty, .unknown, 500, 1⟩] 500]
    let bridge := (new { requestMaxAgeMs := 1 } (.start 1) {}).run calls
    bridge.nextDeadline? = some 1000 ∧ bridge.fireDueTimers 1000 = bridge ∧
      Progress bridge (bridge.fireDueTimers 1001) ∧
      (bridge.fireDueTimers 1001).nextDeadline? = some 1500 := by
  intro calls bridge
  have next : bridge.nextDeadline? = some 1000 := by decide +kernel
  have wakeup := fun now => wakeup_works_off { requestMaxAgeMs := 1 } rfl (.start 1)
    ({} : RecordingChannel) calls bridge rfl 1000 now next
  have quiet : ¬ (bridge.TimerDue 1000 ∨ 1000 < 1000) := by decide +kernel
  have late : 1000 < 1001 := by decide
  exact ⟨next, (wakeup 1000 (Nat.le_refl _)).2.1 quiet, (wakeup 1001 (by decide)).1 (.inr late),
    by decide +kernel⟩

/-- A loop that wakes up at the deadline it was shown can find nothing to do, and be shown the same
deadline again. -/
theorem deadline_come_without_work :
    let config : BridgeConfig := { wakeLockTimeoutMs := 2, requestMaxAgeMs := 1 }
    let calls : List (Call RecordingChannel) :=
      [.batch [.submit ⟨⟨1⟩, .sendSms, .empty, .unknown, 0, 0⟩] 0]
    let bridge := (new config (.start 1) {}).run calls
    config.validate = .ok () ∧ bridge.nextDeadline? = some 1000 ∧
      ¬ Progress bridge (bridge.fireDueTimers 1000) ∧
      (bridge.fireDueTimers 1000).nextDeadline? = some 1000 := by
  exact ⟨rfl, by decide +kernel, by decide +kernel, by decide +kernel⟩

end

end Bridge

end ModemLink
