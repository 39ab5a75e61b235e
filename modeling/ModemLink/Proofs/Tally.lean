/-
Module: ModemLink.Proofs.Tally
Purpose: How often callbacks have run and have still to run, event by event.
Main exports: heard, waiting, demand, tally_react, tally_maintained, empty_of_batch
-/
import ModemLink.Proofs.Run

namespace ModemLink

/-!
How often the callback of a ticket has run and how often it has still to run add up to how often the
ticket was handed in: a callback has still to run while an attempt at its request is in the table,
and between two events no attempt is anywhere else.  All counts are taken ticket by ticket, so that
nothing has to be said about the order in which requests end.
-/

namespace Bridge

variable {χ : Type}

/-- How often the callback of a ticket has run. -/
def heard (bridge : Bridge χ) (ticket : Ticket) : Nat :=
  bridge.outcomes.countP (·.1 = ticket)

/-- How many attempts in the table will run the callback of a ticket. -/
def waiting (bridge : Bridge χ) (ticket : Ticket) : Nat :=
  bridge.pending.attempts.countP (·.ticket = ticket)

/-- How often a ticket is handed in by some submissions. -/
def demand (submissions : List Submission) (ticket : Ticket) : Nat :=
  submissions.countP (·.ticket = ticket)

/-! ## Steps -/

theorem heard_of_settles {before after : Bridge χ} {settled : List (Ticket × Outcome)}
    (settles : Settles before after settled) (ticket : Ticket) :
    after.heard ticket = before.heard ticket + settled.countP (·.1 = ticket) := by
  rw [heard, settles.outcomes, List.countP_append]
  rfl

theorem waiting_of_settles {before after : Bridge χ} {settled : List (Ticket × Outcome)}
    (settles : Settles before after settled) (ticket : Ticket) :
    after.waiting ticket = before.waiting ticket := by
  rw [waiting, settles.pending]
  rfl

theorem heard_of_same {before after : Bridge χ} (same : SameRequests before after)
    (ticket : Ticket) : after.heard ticket = before.heard ticket := by
  rw [heard, same.outcomes]
  rfl

theorem waiting_of_same {before after : Bridge χ} (same : SameRequests before after)
    (ticket : Ticket) : after.waiting ticket = before.waiting ticket := by
  rw [waiting, same.pending]
  rfl

theorem waiting_of_bare {pending : PendingTable} {bridge : Bridge χ}
    (bare : pending.bare = bridge.pending.bare) (ticket : Ticket) :
    pending.attempts.countP (·.ticket = ticket) = bridge.waiting ticket := by
  have tickets := PendingTable.map_attempts_of_bare Attempt.ticket_bare bare
  have counts := congrArg (List.countP (· = ticket)) tickets
  rw [List.countP_map, List.countP_map] at counts
  exact counts

/-- Attempts that leave the table together are told in any order. -/
theorem countP_told (tell : Attempt → Ticket × Outcome)
    (own : ∀ attempt, (tell attempt).1 = attempt.ticket) (attempts : List Attempt)
    (ticket : Ticket) :
    ((PendingTable.inOrder attempts).map tell).countP (·.1 = ticket) =
      attempts.countP (·.ticket = ticket) := by
  rw [List.countP_map, (PendingTable.inOrder_perm attempts).countP_eq]
  apply List.countP_congr
  intro attempt _
  simp [own]

theorem countP_one (ticket other : Ticket) (outcome : Outcome) :
    [(other, outcome)].countP (·.1 = ticket) = if other = ticket then 1 else 0 := by
  rw [List.countP_singleton]
  simp

section

variable [Channel χ]

/-- A request that is issued adds to what waits or to what was told. -/
theorem Issue.tally {bridge after : Bridge χ} {attempt : Attempt} {now : Instant}
    {trace : List (Attempt × SendReply)} (issued : Issue now bridge attempt trace after)
    (ticket : Ticket) :
    after.heard ticket + after.waiting ticket =
      bridge.heard ticket + bridge.waiting ticket + if attempt.ticket = ticket then 1 else 0 := by
  rcases issued.ends.ending with ⟨last, same, -, inserted, told⟩ | ⟨last, reason, -, -, out, told⟩ |
    ⟨last, -, -, out, -, told⟩
  · have added : after.waiting ticket =
        bridge.waiting ticket + if attempt.ticket = ticket then 1 else 0 := by
      rw [waiting, PendingTable.attempts_insert? inserted, List.countP_cons, ← same.ticket]
      by_cases own : last.ticket = ticket
      · simp [Attempt.holding, waiting, own]
      · simp [Attempt.holding, waiting, own]
    rw [heard, told, added]
    exact (Nat.add_assoc _ _ _).symm
  · rw [heard, waiting, told, out, List.countP_append, countP_one]
    exact Nat.add_right_comm _ _ _
  · rw [heard, waiting, told, out, List.countP_append, countP_one]
    exact Nat.add_right_comm _ _ _

theorem tally_submit {bridge : Bridge χ} {submission : Submission} {now : Instant}
    (sound : (bridge.submit submission now).collision = none) (ticket : Ticket) :
    (bridge.submit submission now).heard ticket + (bridge.submit submission now).waiting ticket =
      bridge.heard ticket + bridge.waiting ticket +
        if submission.ticket = ticket then 1 else 0 := by
  cases spoken : bridge.versions.current submission.kind with
  | none =>
      have settles := settles_submit_of_unspoken spoken now
      rw [heard_of_settles settles, waiting_of_settles settles, countP_one]
      exact Nat.add_right_comm _ _ _
  | some version =>
      obtain ⟨trace, issued⟩ := submit_of_spoken spoken sound
      exact issued.tally ticket

/-- An attempt in hand is counted once more after its retry, or after its failure. -/
theorem tally_fallBack {bridge : Bridge χ} {attempt : Attempt} {failed : Version} {now : Instant}
    (sound : (bridge.fallBack attempt failed now).collision = none) (ticket : Ticket) :
    (bridge.fallBack attempt failed now).heard ticket +
        (bridge.fallBack attempt failed now).waiting ticket =
      bridge.heard ticket + bridge.waiting ticket + if attempt.ticket = ticket then 1 else 0 := by
  rcases fallBack_cases sound with ⟨lowest, course⟩ | ⟨version, trace, after, lower, issued, course⟩
  · have settles := settles_finish (bridge.lowered attempt.kind failed) attempt
      (.failed (.unsupported attempt.kind)) now
    rw [course, heard_of_settles settles, waiting_of_settles settles, countP_one]
    exact Nat.add_right_comm _ _ _
  · have released := sameRequests_releaseIf after attempt.holdsLock now
    rw [course, heard_of_same released, waiting_of_same released, issued.tally ticket]
    have told : (bridge.retrying attempt.kind failed version).heard ticket =
        bridge.heard ticket := by
      rw [heard, outcomes_retrying]
      rfl
    rw [told]
    rfl

theorem tally_onAnswer {bridge : Bridge χ} {header : AnswerHeader} {payload : Payload}
    {now : Instant} (sound : (bridge.onAnswer header payload now).collision = none)
    (ticket : Ticket) :
    (bridge.onAnswer header payload now).heard ticket +
        (bridge.onAnswer header payload now).waiting ticket =
      bridge.heard ticket + bridge.waiting ticket := by
  cases found : bridge.pending.find? header.serial with
  | none =>
      have same := sameRequests_onAnswer_of_stale found payload now
      rw [heard_of_same same, waiting_of_same same]
  | some attempt =>
      have same := sameRequests_answered bridge attempt header now
      have taken : bridge.waiting ticket =
          (bridge.answered attempt header now).waiting ticket +
            if attempt.ticket = ticket then 1 else 0 := by
        rw [waiting_of_same same, waiting, (PendingTable.perm_erase found).countP_eq,
          List.countP_cons]
        simp only [decide_eq_true_eq]
        rfl
      have told : (bridge.answered attempt header now).heard ticket = bridge.heard ticket :=
        heard_of_same same ticket
      have finished : ∀ outcome,
          ((bridge.answered attempt header now).finish attempt outcome now).heard ticket +
            ((bridge.answered attempt header now).finish attempt outcome now).waiting ticket =
          bridge.heard ticket + bridge.waiting ticket := by
        intro outcome
        have settles := settles_finish (bridge.answered attempt header now) attempt outcome now
        rw [heard_of_settles settles, waiting_of_settles settles, countP_one, told, taken]
        omega
      rw [onAnswer_of_waiting found] at sound ⊢
      split
      · rename_i refused
        rw [if_pos refused] at sound
        rw [tally_fallBack sound ticket, told, taken]
        exact Nat.add_assoc _ _ _
      · split
        · exact finished _
        · exact finished _

end

theorem tally_ageOut (bridge : Bridge χ) (now : Instant) (ticket : Ticket) :
    (bridge.ageOut now).heard ticket + (bridge.ageOut now).waiting ticket =
      bridge.heard ticket + bridge.waiting ticket := by
  have settles := settles_ageOut bridge now
  have told := countP_told expired (fun _ => rfl)
    (bridge.pending.attempts.filter (PendingTable.isExpired now bridge.maxAge)) ticket
  have parts := List.countP_eq_countP_filter_add bridge.pending.attempts
    (fun attempt => decide (attempt.ticket = ticket)) (PendingTable.isExpired now bridge.maxAge)
  rw [heard_of_settles settles, waiting_of_settles settles]
  show bridge.heard ticket + List.countP _ ((PendingTable.inOrder _).map expired) +
    (bridge.pending.attempts.filter _).countP _ = bridge.heard ticket + bridge.waiting ticket
  rw [told, waiting, parts, Nat.add_assoc]

theorem tally_fireDueTimers (bridge : Bridge χ) (now : Instant) (ticket : Ticket) :
    (bridge.fireDueTimers now).heard ticket + (bridge.fireDueTimers now).waiting ticket =
      bridge.heard ticket + bridge.waiting ticket := by
  obtain ⟨pending, bare, same⟩ := sameRequests_fireLockTimers bridge now
  rw [fireDueTimers, tally_ageOut, heard_of_same same, waiting_of_same same,
    ← waiting_of_bare bare ticket]
  rfl

/-- When everything fails, everything that waits is told. -/
theorem tally_failAll (bridge : Bridge χ) (now : Instant) (ticket : Ticket) :
    (bridge.failAll now).heard ticket + (bridge.failAll now).waiting ticket =
      bridge.heard ticket + bridge.waiting ticket := by
  have settles := settles_failAll bridge now
  have told := countP_told dropped (fun _ => rfl) bridge.pending.attempts ticket
  rw [heard_of_settles settles, waiting_of_settles settles, told]
  rfl

theorem tally_shutdown (bridge : Bridge χ) (now : Instant) (ticket : Ticket) :
    (bridge.shutdown now).heard ticket + (bridge.shutdown now).waiting ticket =
      bridge.heard ticket + bridge.waiting ticket := by
  cases running : bridge.running with
  | false => rw [shutdown_of_stopped running]
  | true =>
      have settles := settles_shutdown running now
      have told := countP_told dropped (fun _ => rfl) bridge.pending.attempts ticket
      rw [heard_of_settles settles, waiting_of_settles settles, told]
      rfl

section

variable [Channel χ]

/-- One event: what is handed in is from then on told or waits. -/
theorem tally_react {bridge : Bridge χ} {now : Instant} {event : Event}
    (sound : (bridge.react now event).collision = none) (ticket : Ticket) :
    (bridge.react now event).heard ticket + (bridge.react now event).waiting ticket =
      bridge.heard ticket + bridge.waiting ticket +
        demand (EventLoop.submissions [event]) ticket := by
  cases event with
  | submit submission =>
      have one : demand (EventLoop.submissions [.submit submission]) ticket =
          if submission.ticket = ticket then 1 else 0 := by
        show [submission].countP (·.ticket = ticket) = _
        rw [List.countP_singleton]
        simp
      rw [one]
      exact tally_submit sound ticket
  | answer header payload => exact tally_onAnswer sound ticket
  | requestAck serial =>
      have waits := waiting_of_bare (bridge.pending.bare_acknowledge serial) ticket
      exact congrArg (bridge.heard ticket + ·) waits
  | indication indication =>
      have same := sameRequests_onIndication bridge indication now
      rw [react, heard_of_same same, waiting_of_same same]
      rfl
  | channelLost => exact tally_failAll bridge now ticket
  | channelRestarted =>
      have same := sameRequests_withDetector bridge bridge.detector.reset
      rw [react, onChannelRestarted, heard_of_same same, waiting_of_same same]
      rfl
  | listenIndications listener => rfl
  | listenStatus listener => rfl
  | shutdown => exact tally_shutdown bridge now ticket

theorem tally_maintained (start : Ticket → Nat) :
    Maintained fun submitted (bridge : Bridge χ) =>
      ∀ ticket, bridge.heard ticket + bridge.waiting ticket =
        start ticket + demand submitted ticket where
  perm reordered tally ticket := by
    rw [tally, demand, demand, reordered.countP_eq]
  same same tally ticket := by
    rw [heard_of_same same, waiting_of_same same, tally]
  serialTaken tally := tally
  timers now tally ticket := by
    rw [tally_fireDueTimers, tally]
  react now event _ sound tally ticket := by
    rw [tally_react sound, tally, demand, demand, demand, List.countP_append, Nat.add_assoc]

omit [Channel χ] in
/-- What was handed in was told or waits, ticket by ticket. -/
theorem tickets_of_tally {bridge : Bridge χ} {submitted : List Submission}
    (tally : ∀ ticket, bridge.heard ticket + bridge.waiting ticket = demand submitted ticket) :
    (bridge.outcomes.map (·.1) ++ bridge.pending.attempts.map (·.ticket)).Perm
      (submitted.map (·.ticket)) := by
  rw [List.perm_iff_count]
  intro ticket
  rw [List.count_append, List.count_eq_countP, List.count_eq_countP, List.count_eq_countP,
    List.countP_map, List.countP_map, List.countP_map]
  exact tally ticket

/-! ## Stopping -/

/-- Only a shutdown stops a bridge. -/
theorem running_react {bridge : Bridge χ} {now : Instant} {event : Event}
    (sound : (bridge.react now event).collision = none) (other : event ≠ .shutdown) :
    (bridge.react now event).running = bridge.running := by
  cases event with
  | submit submission => exact (keeps_submit sound).2
  | answer header payload => exact (keeps_onAnswer sound).2
  | requestAck serial => rfl
  | indication indication => exact (sameRequests_onIndication bridge indication now).running
  | channelLost => exact (settles_failAll bridge now).running
  | channelRestarted => exact (sameRequests_withDetector bridge bridge.detector.reset).running
  | listenIndications listener => rfl
  | listenStatus listener => rfl
  | shutdown => exact absurd rfl other

/-- A stopped bridge with an empty table stays so under control events. -/
theorem stopped_react {bridge : Bridge χ} (stopped : bridge.running = false)
    (empty : bridge.pending = .empty) (now : Instant) {event : Event}
    (control : event.phase = .control) :
    (bridge.react now event).running = false ∧ (bridge.react now event).pending = .empty := by
  cases event with
  | submit | answer | requestAck | indication | channelLost => cases control
  | channelRestarted =>
      have same := sameRequests_withDetector bridge bridge.detector.reset
      exact ⟨same.running.trans stopped, same.pending.trans empty⟩
  | listenIndications listener | listenStatus listener => exact ⟨stopped, empty⟩
  | shutdown =>
      rw [react, shutdown_of_stopped stopped]
      exact ⟨stopped, empty⟩

/-- Events among which all that follow a control event are control events. -/
def ControlLast (events : List Event) : Prop :=
  events.Pairwise fun earlier later => earlier.phase = .control → later.phase = .control

omit [Channel χ] in
theorem controlLast_inPhaseOrder (events : List Event) :
    ControlLast (Event.inPhaseOrder events) := by
  have control : ∀ event ∈ events.filter (·.phase = .control), event.phase = .control := by
    intro event member
    simpa using (List.mem_filter.mp member).2
  have apart : ∀ phase, phase ≠ .control →
      ∀ event ∈ events.filter (·.phase = phase), event.phase ≠ .control := by
    intro phase other event member same
    have here : event.phase = phase := by simpa using (List.mem_filter.mp member).2
    exact other (here.symm.trans same)
  have inbound := apart .inbound (by decide)
  have submission := apart .submission (by decide)
  unfold ControlLast Event.inPhaseOrder
  rw [List.pairwise_append, List.pairwise_append]
  refine ⟨⟨?_, ?_, ?_⟩, ?_, ?_⟩
  · exact List.Pairwise.imp_of_mem (fun member _ _ same => absurd same (inbound _ member))
      (List.pairwise_of_forall fun _ _ => trivial)
  · exact List.Pairwise.imp_of_mem (fun member _ _ same => absurd same (submission _ member))
      (List.pairwise_of_forall fun _ _ => trivial)
  · intro earlier member later _ same
    exact absurd same (inbound earlier member)
  · exact List.Pairwise.imp_of_mem (fun _ member _ _ => control _ member)
      (List.pairwise_of_forall fun _ _ => trivial)
  · intro earlier _ later member _
    exact control later member

omit [Channel χ] in
theorem running_fireDueTimers (bridge : Bridge χ) (now : Instant) :
    (bridge.fireDueTimers now).running = bridge.running := by
  obtain ⟨pending, -, same⟩ := sameRequests_fireLockTimers bridge now
  exact (settles_ageOut _ now).running.trans same.running

/-- Exactly a shutdown in it makes a batch stop the bridge. -/
theorem running_handleBatch {bridge : Bridge χ} {events : List Event} {now : Instant}
    (sound : (bridge.handleBatch events now).collision = none) :
    (bridge.handleBatch events now).running = true ↔
      bridge.running = true ∧ .shutdown ∉ events := by
  have handled : ((bridge.fireDueTimers now).handleEach now
      (Event.inPhaseOrder events)).collision = none := sound
  have fired := running_fireDueTimers bridge now
  have same := (Event.inPhaseOrder_perm events).mem_iff (a := .shutdown)
  have ends := handleEach_induction
    (fun rest later => later.running = true ∧ .shutdown ∉ rest ↔
      bridge.running = true ∧ .shutdown ∉ events) ?_ handled (by rw [fired, same])
  · simp only [List.not_mem_nil, not_false_eq_true, and_true] at ends
    exact ends
  · rintro event rest later - after state
    rw [← state]
    by_cases shuts : event = .shutdown
    · subst shuts
      have stops : (later.react now .shutdown).running = false := by
        cases running : later.running with
        | false =>
            rw [react, shutdown_of_stopped running]
            exact running
        | true => exact (settles_shutdown running now).running
      simp [stops]
    · rw [running_react after shuts]
      simp [Ne.symm shuts]

end

end Bridge

end ModemLink
