/-
Module: ModemLink.Proofs.Expiry
Purpose: Which requests a batch times out, and what becomes of answers to them.
Main exports:
  isExpired_eq, outcomes_fireDueTimers, mem_fireDueTimers, told_handleEach, outcomes_handleBatch,
  answer_after_expiry
-/
import ModemLink.Proofs.Course
import ModemLink.Proofs.Provenance

namespace ModemLink

/-!
A batch fires timers before it handles events, and only timers tell a request that it timed out.  So
the requests that a batch times out are those that are too old in the table before it: firing the
timers of the locks changes marks only, and neither the age nor the order of attempts depends on
marks.
-/

namespace Attempt

variable {attempt other : Attempt}

theorem serial_of_bare (same : attempt.bare = other.bare) : attempt.serial = other.serial :=
  show attempt.bare.serial = other.bare.serial from congrArg Attempt.serial same

theorem issuedAt_of_bare (same : attempt.bare = other.bare) : attempt.issuedAt = other.issuedAt :=
  show attempt.bare.issuedAt = other.bare.issuedAt from congrArg Attempt.issuedAt same

end Attempt

namespace PendingTable

/-- An attempt is expired if it was issued more than the allowed age ago. -/
theorem isExpired_eq (now : Instant) (maxAge : Span) (attempt : Attempt) :
    isExpired now maxAge attempt = decide (attempt.issuedAt + maxAge < now) := by
  apply decide_eq_decide.mpr
  rw [Attempt.age, Instant.since, Nat.lt_sub_iff_add_lt, Nat.add_comm]

/-- Attempts that differ in marks only fail in the same order. -/
theorem map_inOrder_of_bare {α : Type} {attempts others : List Attempt} {view : Attempt → α}
    (blind : ∀ attempt, view attempt.bare = view attempt)
    (same : attempts.map Attempt.bare = others.map Attempt.bare) :
    (inOrder attempts).map view = (inOrder others).map view := by
  have through : ∀ attempts : List Attempt,
      (inOrder attempts).map view = (inOrder (attempts.map Attempt.bare)).map view := by
    intro attempts
    have sorted : (inOrder attempts).map Attempt.bare = inOrder (attempts.map Attempt.bare) :=
      List.map_mergeSort fun _ _ _ _ => rfl
    rw [← sorted, List.map_map]
    exact List.map_congr_left fun attempt _ => (blind attempt).symm
  rw [through, through others, same]

end PendingTable

namespace Bridge

variable {χ : Type}

/-! ## Timers -/

/-- The timers tell those that are too old that they timed out, in order, and nothing else. -/
theorem outcomes_fireDueTimers (bridge : Bridge χ) (now : Instant) :
    (bridge.fireDueTimers now).outcomes = bridge.outcomes ++
      (PendingTable.inOrder (bridge.pending.attempts.filter fun attempt =>
        attempt.issuedAt + bridge.maxAge < now)).map expired := by
  obtain ⟨pending, bare, same⟩ := sameRequests_fireLockTimers bridge now
  have settles := settles_ageOut ((bridge.firePrimaryTimer now).fireAckTimer now) now
  have table : ((bridge.firePrimaryTimer now).fireAckTimer now).pending = pending := same.pending
  have span : ((bridge.firePrimaryTimer now).fireAckTimer now).maxAge = bridge.maxAge := same.maxAge
  have marks : ∀ attempts : List Attempt,
      (attempts.filter fun attempt => attempt.issuedAt + bridge.maxAge < now).map Attempt.bare =
        (attempts.map Attempt.bare).filter fun attempt =>
          attempt.issuedAt + bridge.maxAge < now := by
    intro attempts
    rw [List.filter_map]
    rfl
  have told := settles.outcomes.trans (congrArg (· ++ _) same.outcomes)
  rw [PendingTable.ageOut, table, span, funext (PendingTable.isExpired_eq now bridge.maxAge)]
    at told
  refine told.trans (congrArg (bridge.outcomes ++ ·) ?_)
  apply PendingTable.map_inOrder_of_bare fun _ => rfl
  rw [marks, marks]
  exact congrArg (List.filter _) bare

/-- What waits after the timers waited before, marks apart, and is not too old. -/
theorem mem_fireDueTimers {bridge : Bridge χ} {now : Instant} {waiting : Attempt}
    (member : waiting ∈ (bridge.fireDueTimers now).pending.attempts) :
    ∃ earlier ∈ bridge.pending.attempts, earlier.bare = waiting.bare ∧
      now ≤ waiting.issuedAt + bridge.maxAge := by
  obtain ⟨pending, bare, same⟩ := sameRequests_fireLockTimers bridge now
  have table : ((bridge.firePrimaryTimer now).fireAckTimer now).pending = pending := same.pending
  have span : ((bridge.firePrimaryTimer now).fireAckTimer now).maxAge = bridge.maxAge := same.maxAge
  rw [fireDueTimers, (settles_ageOut _ now).pending, PendingTable.ageOut, table, span] at member
  obtain ⟨there, young⟩ := List.mem_filter.mp member
  obtain ⟨earlier, before, marks⟩ := PendingTable.mem_of_bare bare there
  rw [PendingTable.isExpired_eq] at young
  exact ⟨earlier, before, marks, by simpa using young⟩

/-! ## Events -/

section

variable [Channel χ]

omit [Channel χ] in
/-- No event tells a request that it timed out. -/
theorem not_timedOut_of_justified {before after : Bridge χ} {submission : Submission}
    {event : Event} {now : Instant} {outcome : Outcome}
    (justified : Justified before after submission (.event event now) outcome)
    (kind : RequestKind) : outcome ≠ .failed (.timedOut kind) := by
  cases justified <;> simp

theorem told_handleEach {handedIn : List Submission} {bridge : Bridge χ} {now : Instant}
    {events : List Event} (sound : (bridge.handleEach now events).collision = none)
    (sourced : Sourced handedIn bridge) :
    ∃ told, (bridge.handleEach now events).outcomes = bridge.outcomes ++ told ∧
      ∀ entry ∈ told, ∀ kind, entry.2 ≠ .failed (.timedOut kind) := by
  have handled := handleEach_induction
    (fun _ after => (∃ handedIn, Sourced handedIn after) ∧
      ∃ told, after.outcomes = bridge.outcomes ++ told ∧
        ∀ entry ∈ told, ∀ kind, entry.2 ≠ .failed (.timedOut kind)) ?_ sound
    ⟨⟨handedIn, sourced⟩, [], (List.append_nil _).symm, by simp⟩
  · exact handled.2
  · rintro event rest middle - after ⟨⟨handedIn, sourced⟩, told, grown, timely⟩
    obtain ⟨kept, more, grownOn, explained⟩ := explained_react after sourced
    refine ⟨⟨_, kept⟩, told ++ more, ?_, ?_⟩
    · rw [grownOn, grown, List.append_assoc]
    · intro entry member
      rcases List.mem_append.mp member with old | new
      · exact timely entry old
      · obtain ⟨submission, -, -, justified⟩ := explained entry new
        exact not_timedOut_of_justified justified

/-- A batch tells those that are too old before it that they timed out, and no others. -/
theorem outcomes_handleBatch {handedIn : List Submission} {bridge : Bridge χ}
    {events : List Event} {now : Instant}
    (sound : (bridge.handleBatch events now).collision = none)
    (sourced : Sourced handedIn bridge) :
    ∃ told, (bridge.handleBatch events now).outcomes = bridge.outcomes ++
        (PendingTable.inOrder (bridge.pending.attempts.filter fun attempt =>
          attempt.issuedAt + bridge.maxAge < now)).map expired ++ told ∧
      ∀ entry ∈ told, ∀ kind, entry.2 ≠ .failed (.timedOut kind) := by
  have handled : ((bridge.fireDueTimers now).handleEach now
      (Event.inPhaseOrder events)).collision = none := sound
  obtain ⟨told, grown, timely⟩ := told_handleEach handled (explained_fireDueTimers sourced now).1
  refine ⟨told, ?_, timely⟩
  have sampled : (bridge.handleBatch events now).outcomes =
      ((bridge.fireDueTimers now).handleEach now (Event.inPhaseOrder events)).outcomes :=
    outcomes_measure _ _
  rw [sampled, grown, outcomes_fireDueTimers]

/-! ## Answers that come too late -/

/-- What all calls keep holds after some steps that are no batches. -/
theorem Kept.ofSteps {start : Bridge χ} {P : List (Call χ) → List Handed → Bridge χ → Hand → Prop}
    (kept : Kept start P) (steps : List (Call χ))
    (single : ∀ step ∈ steps, ∀ events now, step ≠ .batch events now)
    (holds : P [] [] start .empty) :
    P steps (start.traceOfSteps steps) (start.run steps) .empty := by
  have whole : P ([] ++ steps) ([] ++ start.traceOfSteps steps) (start.run ([] ++ steps)) .empty :=
    kept.steps single holds
  rwa [List.nil_append, List.nil_append] at whole

/-- What waits under a serial under which nothing waited at the start has been handed over since. -/
theorem kept_handed_since (start : Bridge χ) (serial : Serial) :
    Kept start fun _ trace bridge _ => ∀ waiting ∈ bridge.pending.attempts,
      waiting.serial = serial →
        ∃ handed ∈ trace, handed.attempt.serial = serial ∧ handed.reply = .accepted where
  begins := by
    intro calls trace call middle hand holds begins waiting member named
    cases begins with
    | bare | submitted => exact holds waiting member named
    | answered => exact holds waiting (List.mem_filter.mp member).1 named
  leg := by
    intro calls trace before hand handed after held holds leg waiting member named
    rcases leg.waiting_cases member with ⟨earlier, there, bare⟩ | ⟨attempt, -, rfl, rfl⟩
    · obtain ⟨one, old, facts⟩ := holds earlier there ((Attempt.serial_of_bare bare).trans named)
      exact ⟨one, List.mem_append_left _ old, facts⟩
    · exact ⟨_, List.mem_append_right _ List.mem_cons_self, named, rfl⟩

/-- An answer to an attempt that the same batch timed out is only counted, unless its serial was
handed out anew in the meantime. -/
theorem answer_after_expiry {bridge : Bridge χ} {now : Instant} {earlier : List Event}
    {header : AnswerHeader} {expired : Attempt} (waited : expired ∈ bridge.pending.attempts)
    (named : expired.serial = header.serial) (late : expired.issuedAt + bridge.maxAge < now)
    (payload : Payload)
    (sound : ((bridge.fireDueTimers now).handleEach now earlier).collision = none) :
    let middle := (bridge.fireDueTimers now).handleEach now earlier
    middle.handle now (.answer header payload) = middle.countStale ∨
      ∃ handed ∈ (bridge.fireDueTimers now).traceOfSteps
          (earlier.map fun event => .event event now),
        handed.attempt.serial = header.serial ∧ handed.reply = .accepted := by
  intro middle
  cases waiting : middle.pending.find? header.serial with
  | none =>
      refine Or.inl ?_
      rw [handle_of_sound sound, react, onAnswer_of_stale waiting, countStale]
  | some other =>
      -- What was too old is gone, so this attempt was handed over in the same batch.
      refine Or.inr ?_
      have gone : ∀ left ∈ (bridge.fireDueTimers now).pending.attempts,
          left.serial ≠ header.serial := by
        intro left member same
        obtain ⟨before, there, bare, young⟩ := mem_fireDueTimers member
        have found := PendingTable.find?_of_mem there
        rw [Attempt.serial_of_bare bare, same, ← named, PendingTable.find?_of_mem waited] at found
        cases found
        rw [Attempt.issuedAt_of_bare bare] at late
        exact Nat.not_lt_of_le young late
      have since := (kept_handed_since (bridge.fireDueTimers now) header.serial).ofSteps
        (earlier.map fun event => .event event now) (by simp)
        fun left member same => absurd same (gone left member)
      rw [← handleEach_eq_run] at since
      exact since other (PendingTable.mem_attempts_of_find? waiting)
        (PendingTable.serial_of_find? waiting)

end

end Bridge

end ModemLink
