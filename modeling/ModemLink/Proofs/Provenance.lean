/-
Module: ModemLink.Proofs.Provenance
Purpose: What a request is told, and which step of the bridge justifies it.
Main exports: IsFor, Sourced, Justified, Explained, explained_react, outcome_provenance
-/
import ModemLink.Proofs.Run

namespace ModemLink

/-!
Every attempt in the table belongs to a request that was handed in, through all retries: it has the
ticket, the kind, the payload and the origin of its submission.  An answer is matched to an attempt
by its serial alone, and no two attempts in the table have the same serial.  So what a step tells is
told to the request whose current attempt it is about, and names that request's kind, whatever kind
the frame from the modem names.
-/

/-- The attempt is an attempt at the request that was handed in. -/
structure Attempt.IsFor (attempt : Attempt) (submission : Submission) : Prop where
  ticket : attempt.ticket = submission.ticket
  kind : attempt.kind = submission.kind
  payload : attempt.payload = submission.payload
  origin : attempt.origin = submission.origin

theorem Attempt.isFor_ofSubmission (submission : Submission) (version : Version) (now : Instant) :
    (Attempt.ofSubmission submission version now).IsFor submission :=
  ⟨rfl, rfl, rfl, rfl⟩

theorem Attempt.IsFor.of_sameRequest {attempt other : Attempt} {submission : Submission}
    (own : attempt.IsFor submission) (same : attempt.SameRequest other) :
    other.IsFor submission :=
  ⟨same.ticket.trans own.ticket, same.kind.trans own.kind, same.payload.trans own.payload,
    same.origin.trans own.origin⟩

/-- Marks say nothing about the request. -/
theorem Attempt.IsFor.of_bare {attempt other : Attempt} {submission : Submission}
    (own : attempt.IsFor submission) (same : attempt.bare = other.bare) : other.IsFor submission :=
  ⟨(congrArg Attempt.ticket same).symm.trans own.ticket,
    (congrArg Attempt.kind same).symm.trans own.kind,
    (congrArg Attempt.payload same).symm.trans own.payload,
    (congrArg Attempt.origin same).symm.trans own.origin⟩

namespace Bridge

variable {χ : Type}

/-- Every attempt in the table is one at a request that was handed in. -/
def Sourced (handedIn : List Submission) (bridge : Bridge χ) : Prop :=
  ∀ attempt ∈ bridge.pending.attempts, ∃ submission ∈ handedIn, attempt.IsFor submission

theorem Sourced.mono {handedIn others : List Submission} {bridge : Bridge χ}
    (sourced : Sourced handedIn bridge) (subset : handedIn ⊆ others) : Sourced others bridge := by
  intro attempt waits
  obtain ⟨submission, member, own⟩ := sourced attempt waits
  exact ⟨submission, subset member, own⟩

theorem Sourced.of_pending {handedIn : List Submission} {before after : Bridge χ}
    (sourced : Sourced handedIn before) (same : after.pending = before.pending) :
    Sourced handedIn after := by
  intro attempt waits
  rw [same] at waits
  exact sourced attempt waits

/-- The event is about the request: it hands it in, or it refuses the version of its current
attempt. -/
inductive Concerns (before : Bridge χ) (submission : Submission) : Event → Prop where
  | handedIn : Concerns before submission (.submit submission)
  | refusal {header : AnswerHeader} {payload : Payload} {attempt : Attempt}
      (current : before.pending.find? header.serial = some attempt)
      (own : attempt.IsFor submission) (refused : header.code = .requestNotSupported) :
      Concerns before submission (.answer header payload)

/-- Why a request is told an outcome in a step from `before` to `after`. -/
inductive Justified (before after : Bridge χ) (submission : Submission) :
    Call χ → Outcome → Prop where
  /-- Its current attempt was answered with success, and the payload of the answer is told. -/
  | answered {header : AnswerHeader} {payload : Payload} {now : Instant} {attempt : Attempt}
      (current : before.pending.find? header.serial = some attempt)
      (own : attempt.IsFor submission) (success : header.code = .success) :
      Justified before after submission (.event (.answer header payload) now) (.ok payload)
  /-- Its current attempt was answered with another error than that of an unknown version. -/
  | rejected {header : AnswerHeader} {payload : Payload} {now : Instant} {attempt : Attempt}
      (current : before.pending.find? header.serial = some attempt)
      (own : attempt.IsFor submission) (error : header.code ≠ .success)
      (known : header.code ≠ .requestNotSupported) :
      Justified before after submission (.event (.answer header payload) now)
        (.failed (.rejected submission.kind header.code))
  /-- Its kind had no version when it was handed in. -/
  | unspoken {now : Instant} (unspoken : before.versions.current submission.kind = none) :
      Justified before after submission (.event (.submit submission) now)
        (.failed (.unsupported submission.kind))
  /-- Its current attempt was refused by an answer, and its kind has no version left. -/
  | refusedByModem {header : AnswerHeader} {payload : Payload} {now : Instant} {attempt : Attempt}
      (current : before.pending.find? header.serial = some attempt)
      (own : attempt.IsFor submission) (refused : header.code = .requestNotSupported)
      (exhausted : after.versions.current submission.kind = none) :
      Justified before after submission (.event (.answer header payload) now)
        (.failed (.unsupported submission.kind))
  /-- Its last attempt was refused when it was handed over, and its kind has no version left. -/
  | refusedByChannel {event : Event} {now : Instant} {handed : List (Outbound × SendReply)}
      {last : Attempt} (concerned : Concerns before submission event) (own : last.IsFor submission)
      (handovers : after.handovers =
        before.handovers ++ handed ++ [(last.outbound, .versionRefused)])
      (exhausted : after.versions.current submission.kind = none) :
      Justified before after submission (.event event now) (.failed (.unsupported submission.kind))
  /-- Its last attempt could not be handed over. -/
  | unreachable {event : Event} {now : Instant} {handed : List (Outbound × SendReply)}
      {last : Attempt} {reason : String} (concerned : Concerns before submission event)
      (own : last.IsFor submission)
      (handovers : after.handovers =
        before.handovers ++ handed ++ [(last.outbound, .unavailable reason)]) :
      Justified before after submission (.event event now)
        (.failed (.channelUnavailable submission.kind))
  /-- The channel was lost while it waited. -/
  | channelLost {now : Instant} {attempt : Attempt} (waits : attempt ∈ before.pending.attempts)
      (own : attempt.IsFor submission) :
      Justified before after submission (.event .channelLost now)
        (.failed (.channelUnavailable submission.kind))
  /-- The bridge was shut down while it waited. -/
  | shutDown {now : Instant} {attempt : Attempt} (waits : attempt ∈ before.pending.attempts)
      (own : attempt.IsFor submission) :
      Justified before after submission (.event .shutdown now)
        (.failed (.channelUnavailable submission.kind))
  /-- Its current attempt waited longer than allowed. -/
  | timedOut {now : Instant} {attempt : Attempt} (waits : attempt ∈ before.pending.attempts)
      (own : attempt.IsFor submission) (tooOld : before.maxAge < attempt.age now) :
      Justified before after submission (.timers now) (.failed (.timedOut submission.kind))

/-- All that a step tells is told to requests that were handed in, with a justification. -/
def Explained (handedIn : List Submission) (before after : Bridge χ) (step : Call χ) : Prop :=
  ∃ told, after.outcomes = before.outcomes ++ told ∧
    ∀ entry ∈ told, ∃ submission ∈ handedIn, submission.ticket = entry.1 ∧
      Justified before after submission step entry.2

theorem explained_of_nothing {handedIn : List Submission} {before after : Bridge χ}
    {step : Call χ} (same : after.outcomes = before.outcomes) :
    Explained handedIn before after step :=
  ⟨[], by rw [same, List.append_nil], by simp⟩

theorem explained_of_one {handedIn : List Submission} {before after : Bridge χ} {step : Call χ}
    {submission : Submission} (attempt : Attempt) {outcome : Outcome}
    (told : after.outcomes = before.outcomes ++ [(attempt.ticket, outcome)])
    (member : submission ∈ handedIn) (own : attempt.IsFor submission)
    (justified : Justified before after submission step outcome) :
    Explained handedIn before after step := by
  refine ⟨_, told, ?_⟩
  intro entry one
  rw [List.mem_singleton.mp one]
  exact ⟨submission, member, own.ticket.symm, justified⟩

/-! ## Requests -/

section

variable [Channel χ]

theorem Issue.sourced {handedIn : List Submission} {bridge after : Bridge χ} {attempt : Attempt}
    {submission : Submission} {now : Instant} {trace : List (Attempt × SendReply)}
    (issued : Issue now bridge attempt trace after) (own : attempt.IsFor submission)
    (member : submission ∈ handedIn) (sourced : Sourced handedIn bridge) :
    Sourced handedIn after := by
  intro waiting waits
  rcases issued.ends.ending with ⟨last, same, -, inserted, -⟩ | ⟨last, reason, -, -, out, -⟩ |
    ⟨last, -, -, out, -⟩
  · rw [PendingTable.attempts_insert? inserted] at waits
    rcases List.mem_cons.mp waits with rfl | waits
    · have own := own.of_sameRequest same
      exact ⟨submission, member, own.ticket, own.kind, own.payload, own.origin⟩
    · exact sourced waiting waits
  · exact sourced waiting (out ▸ waits)
  · exact sourced waiting (out ▸ waits)

/-- A request that is issued is told an outcome only because of its last attempt. -/
theorem Issue.explained {handedIn : List Submission} {before bridge after final : Bridge χ}
    {attempt : Attempt} {submission : Submission} {event : Event} {now : Instant}
    {trace : List (Attempt × SendReply)} (issued : Issue now bridge attempt trace after)
    (handedOver : bridge.handovers = before.handovers)
    (toldNothing : bridge.outcomes = before.outcomes)
    (same : SameRequests after final) (member : submission ∈ handedIn)
    (own : attempt.IsFor submission) (concerned : Concerns before submission event) :
    Explained handedIn before final (.event event now) := by
  have ends := issued.ends
  have traced : ∀ {last : Attempt} {reply : SendReply}, trace.getLast? = some (last, reply) →
      ∃ handed, final.handovers = before.handovers ++ handed ++ [(last.outbound, reply)] := by
    intro last reply ended
    obtain ⟨earlier, rfl⟩ := List.getLast?_eq_some_iff.mp ended
    refine ⟨earlier.map fun handed => (handed.1.outbound, handed.2), ?_⟩
    rw [same.handovers, ends.handovers, handedOver, List.map_append, List.append_assoc]
    rfl
  rcases ends.ending with ⟨last, -, -, -, told⟩ | ⟨last, reason, later, ended, -, told⟩ |
    ⟨last, later, ended, -, exhausted, told⟩
  · apply explained_of_nothing
    rw [same.outcomes, told, toldNothing]
  · obtain ⟨handed, handovers⟩ := traced ended
    refine explained_of_one attempt ?_ member own
      (.unreachable concerned (own.of_sameRequest later) handovers)
    rw [same.outcomes, told, toldNothing, own.kind]
  · obtain ⟨handed, handovers⟩ := traced ended
    refine explained_of_one attempt ?_ member own
      (.refusedByChannel concerned (own.of_sameRequest later) handovers ?_)
    · rw [same.outcomes, told, toldNothing, own.kind]
    · rw [same.versions, ← own.kind, exhausted]

theorem explained_submit {handedIn : List Submission} {bridge : Bridge χ}
    {submission : Submission} {now : Instant}
    (sound : (bridge.submit submission now).collision = none) (sourced : Sourced handedIn bridge) :
    Sourced (handedIn ++ [submission]) (bridge.submit submission now) ∧
      Explained (handedIn ++ [submission]) bridge (bridge.submit submission now)
        (.event (.submit submission) now) := by
  have member : submission ∈ handedIn ++ [submission] := by simp
  have sourced := sourced.mono (List.subset_append_left handedIn [submission])
  cases spoken : bridge.versions.current submission.kind with
  | none =>
      have settles := settles_submit_of_unspoken spoken now
      refine ⟨sourced.of_pending settles.pending, _, settles.outcomes, ?_⟩
      intro entry one
      rw [List.mem_singleton.mp one]
      exact ⟨submission, member, rfl, .unspoken spoken⟩
  | some version =>
      obtain ⟨trace, issued⟩ := submit_of_spoken spoken sound
      have own := Attempt.isFor_ofSubmission submission version now
      exact ⟨issued.sourced own member sourced,
        issued.explained rfl rfl (.refl _) member own .handedIn⟩

/-! ## Answers -/

/-- What the refusal of the current attempt leads to: a retry, or a failure of this request. -/
theorem explained_refusal {handedIn : List Submission} {bridge : Bridge χ} {header : AnswerHeader}
    {payload : Payload} {attempt : Attempt} {submission : Submission} {now : Instant}
    (current : bridge.pending.find? header.serial = some attempt)
    (refused : header.code = .requestNotSupported)
    (sound : ((bridge.answered attempt header now).fallBack attempt attempt.version now).collision =
      none)
    (member : submission ∈ handedIn) (own : attempt.IsFor submission)
    (sourced : Sourced handedIn (bridge.answered attempt header now)) :
    Sourced handedIn ((bridge.answered attempt header now).fallBack attempt attempt.version now) ∧
      Explained handedIn bridge
        ((bridge.answered attempt header now).fallBack attempt attempt.version now)
        (.event (.answer header payload) now) := by
  rcases fallBack_cases sound with ⟨lowest, course⟩ | ⟨version, trace, after, lower, issued, course⟩
  · have settles := settles_finish
      ((bridge.answered attempt header now).lowered attempt.kind attempt.version) attempt
      (.failed (.unsupported attempt.kind)) now
    have fallen := sourced.of_pending
      (pending_lowered (bridge.answered attempt header now) attempt.kind attempt.version)
    rw [course]
    refine ⟨fallen.of_pending settles.pending, ?_⟩
    refine explained_of_one attempt ?_ member own (.refusedByModem current own refused ?_)
    · rw [settles.outcomes, outcomes_lowered, outcomes_answered, own.kind]
    · rw [settles.versions, ← own.kind, lowered, VersionTable.current_lower, if_pos rfl, lowest]
  · have released := sameRequests_releaseIf after attempt.holdsLock now
    have retryOwn := own.of_sameRequest
      (attempt.sameRequest_reissue (bridge.answered attempt header now).serials.take.1 version now)
    have untaken := sourced.of_pending
      (pending_retrying (bridge.answered attempt header now) attempt.kind attempt.version version)
    rw [course]
    constructor
    · exact (issued.sourced retryOwn member untaken).of_pending released.pending
    · refine issued.explained ?_ ?_ released member retryOwn (.refusal current own refused)
      · rw [handovers_retrying, handovers_answered]
      · rw [outcomes_retrying, outcomes_answered]

theorem explained_onAnswer {handedIn : List Submission} {bridge : Bridge χ}
    {header : AnswerHeader} {payload : Payload} {now : Instant}
    (sound : (bridge.onAnswer header payload now).collision = none)
    (sourced : Sourced handedIn bridge) :
    Sourced handedIn (bridge.onAnswer header payload now) ∧
      Explained handedIn bridge (bridge.onAnswer header payload now)
        (.event (.answer header payload) now) := by
  cases current : bridge.pending.find? header.serial with
  | none =>
      have same := sameRequests_onAnswer_of_stale current payload now
      exact ⟨sourced.of_pending same.pending, explained_of_nothing same.outcomes⟩
  | some attempt =>
      obtain ⟨submission, member, own⟩ :=
        sourced attempt (PendingTable.mem_attempts_of_find? current)
      have kept : Sourced handedIn (bridge.answered attempt header now) := by
        intro waiting waits
        rw [pending_answered] at waits
        exact sourced waiting (List.mem_filter.mp waits).1
      have finished : ∀ outcome, Justified bridge
            ((bridge.answered attempt header now).finish attempt outcome now) submission
            (.event (.answer header payload) now) outcome →
          Sourced handedIn ((bridge.answered attempt header now).finish attempt outcome now) ∧
            Explained handedIn bridge
              ((bridge.answered attempt header now).finish attempt outcome now)
              (.event (.answer header payload) now) := by
        intro outcome justified
        have settles := settles_finish (bridge.answered attempt header now) attempt outcome now
        refine ⟨kept.of_pending settles.pending, ?_⟩
        refine explained_of_one attempt ?_ member own justified
        rw [settles.outcomes, outcomes_answered]
      rw [onAnswer_of_waiting current] at sound ⊢
      split
      · rename_i refused
        rw [if_pos refused] at sound
        exact explained_refusal current (AnswerCode.isNotSupported_iff.mp refused) sound member own
          kept
      · rename_i known
        have known := mt AnswerCode.isNotSupported_iff.mpr known
        split
        · rename_i success
          exact finished _ (.answered current own (AnswerCode.isSuccess_iff.mp success))
        · rename_i error
          have error := mt AnswerCode.isSuccess_iff.mpr error
          rw [own.kind]
          exact finished _ (.rejected current own error known)

end

/-! ## Timers, losses and the end -/

theorem Sourced.of_bare {handedIn : List Submission} {before after : Bridge χ}
    (sourced : Sourced handedIn before) (bare : after.pending.bare = before.pending.bare) :
    Sourced handedIn after := by
  intro attempt waits
  obtain ⟨waiting, there, same⟩ := PendingTable.mem_of_bare bare waits
  obtain ⟨submission, member, own⟩ := sourced waiting there
  exact ⟨submission, member, own.of_bare same⟩

theorem explained_fireDueTimers {handedIn : List Submission} {bridge : Bridge χ}
    (sourced : Sourced handedIn bridge) (now : Instant) :
    Sourced handedIn (bridge.fireDueTimers now) ∧
      Explained handedIn bridge (bridge.fireDueTimers now) (.timers now) := by
  obtain ⟨pending, bare, same⟩ := sameRequests_fireLockTimers bridge now
  have settles := settles_ageOut ((bridge.firePrimaryTimer now).fireAckTimer now) now
  have unmarked :
      ((bridge.firePrimaryTimer now).fireAckTimer now).pending.bare = bridge.pending.bare := by
    rw [same.pending]
    exact bare
  have outcomes := settles.outcomes.trans (congrArg (· ++ _) same.outcomes)
  refine ⟨?_, _, outcomes, ?_⟩
  · intro attempt waits
    have kept : attempt ∈ (PendingTable.ageOut _ now _).2.attempts := settles.pending ▸ waits
    exact sourced.of_bare unmarked attempt (List.mem_filter.mp kept).1
  · intro entry told
    obtain ⟨attempt, taken, rfl⟩ := List.mem_map.mp told
    obtain ⟨waited, tooOld⟩ := List.mem_filter.mp ((PendingTable.inOrder_perm _).mem_iff.mp taken)
    obtain ⟨waiting, there, marks⟩ := PendingTable.mem_of_bare unmarked waited
    obtain ⟨submission, member, own⟩ := sourced waiting there
    have old : bridge.maxAge < waiting.age now := by
      have age : waiting.bare.age now = attempt.bare.age now :=
        congrArg (fun attempt : Attempt => attempt.age now) marks
      rw [← same.maxAge]
      show _ < waiting.bare.age now
      rw [age]
      exact of_decide_eq_true tooOld
    have attemptOwn := own.of_bare marks
    refine ⟨submission, member, attemptOwn.ticket.symm, ?_⟩
    rw [expired, attemptOwn.kind]
    exact .timedOut there own old

/-- When everything fails, each request is told because its current attempt waited. -/
theorem explained_of_drained {handedIn : List Submission} {before middle after : Bridge χ}
    {step : Call χ} (sourced : Sourced handedIn before)
    (settles : Settles middle after ((PendingTable.inOrder before.pending.attempts).map dropped))
    (empty : middle.pending = .empty) (toldNothing : middle.outcomes = before.outcomes)
    (justified : ∀ {submission : Submission} {attempt : Attempt},
      attempt ∈ before.pending.attempts → attempt.IsFor submission →
        Justified before after submission step (.failed (.channelUnavailable submission.kind))) :
    Sourced handedIn after ∧ Explained handedIn before after step := by
  have outcomes := settles.outcomes
  rw [toldNothing] at outcomes
  refine ⟨?_, _, outcomes, ?_⟩
  · intro attempt waits
    rw [settles.pending, empty] at waits
    exact absurd waits List.not_mem_nil
  · intro entry told
    obtain ⟨attempt, taken, rfl⟩ := List.mem_map.mp told
    have waits := (PendingTable.inOrder_perm _).mem_iff.mp taken
    obtain ⟨submission, member, own⟩ := sourced attempt waits
    refine ⟨submission, member, own.ticket.symm, ?_⟩
    rw [dropped, own.kind]
    exact justified waits own

section

variable [Channel χ]

theorem explained_react_of_no_request {handedIn : List Submission} {bridge : Bridge χ}
    {now : Instant} {event : Event} (other : EventLoop.submissions [event] = [])
    (sound : (bridge.react now event).collision = none) (sourced : Sourced handedIn bridge) :
    Sourced handedIn (bridge.react now event) ∧
      Explained handedIn bridge (bridge.react now event) (.event event now) := by
  cases event with
  | submit submission => exact absurd other (List.cons_ne_nil _ _)
  | answer header payload =>
      exact explained_onAnswer sound sourced
  | requestAck serial =>
      exact ⟨sourced.of_bare (bridge.pending.bare_acknowledge serial), explained_of_nothing rfl⟩
  | indication indication =>
      have same := sameRequests_onIndication bridge indication now
      exact ⟨sourced.of_pending same.pending, explained_of_nothing same.outcomes⟩
  | channelLost =>
      exact explained_of_drained sourced (settles_failAll bridge now) rfl rfl .channelLost
  | channelRestarted =>
      have same := sameRequests_withDetector bridge bridge.detector.reset
      exact ⟨sourced.of_pending same.pending, explained_of_nothing same.outcomes⟩
  | listenIndications listener =>
      exact ⟨sourced, explained_of_nothing rfl⟩
  | listenStatus listener =>
      exact ⟨sourced, explained_of_nothing rfl⟩
  | shutdown =>
      cases running : bridge.running with
      | false =>
          rw [react, shutdown_of_stopped running]
          exact ⟨sourced, explained_of_nothing rfl⟩
      | true =>
          exact explained_of_drained sourced (settles_shutdown running now) rfl rfl .shutDown

theorem explained_react {handedIn : List Submission} {bridge : Bridge χ} {now : Instant}
    {event : Event} (sound : (bridge.react now event).collision = none)
    (sourced : Sourced handedIn bridge) :
    Sourced (handedIn ++ EventLoop.submissions [event]) (bridge.react now event) ∧
      Explained (handedIn ++ EventLoop.submissions [event]) bridge (bridge.react now event)
        (.event event now) := by
  by_cases other : EventLoop.submissions [event] = []
  · rw [other, List.append_nil]
    exact explained_react_of_no_request other sound sourced
  · cases event with
    | submit submission => exact explained_submit sound sourced
    | answer | requestAck | indication | channelLost | channelRestarted | listenIndications
    | listenStatus | shutdown => exact absurd rfl other

/-- What a bridge does about an answer under a serial that an attempt has: it tells that request its
outcome, or retries that request; all other attempts stay as they are. -/
theorem onAnswer_effect {bridge : Bridge χ} {header : AnswerHeader} {payload : Payload}
    {now : Instant} {attempt : Attempt}
    (current : bridge.pending.find? header.serial = some attempt)
    (sound : (bridge.onAnswer header payload now).collision = none) :
    (∃ outcome, (bridge.onAnswer header payload now).outcomes =
        bridge.outcomes ++ [(attempt.ticket, outcome)] ∧
      (bridge.onAnswer header payload now).pending = bridge.pending.erase header.serial) ∨
    (header.code = .requestNotSupported ∧
      (bridge.onAnswer header payload now).outcomes = bridge.outcomes ∧
      ∃ retry, attempt.SameRequest retry ∧
        (bridge.pending.erase header.serial).insert? retry =
          some (bridge.onAnswer header payload now).pending) := by
  have finished : ∀ outcome,
      ((bridge.answered attempt header now).finish attempt outcome now).outcomes =
          bridge.outcomes ++ [(attempt.ticket, outcome)] ∧
        ((bridge.answered attempt header now).finish attempt outcome now).pending =
          bridge.pending.erase header.serial := by
    intro outcome
    have settles := settles_finish (bridge.answered attempt header now) attempt outcome now
    rw [settles.outcomes, settles.pending, outcomes_answered, pending_answered]
    exact ⟨rfl, rfl⟩
  rw [onAnswer_of_waiting current] at sound ⊢
  split
  · rename_i refused
    rw [if_pos refused] at sound
    rcases fallBack_cases sound with ⟨lowest, course⟩ |
      ⟨version, trace, after, lower, issued, course⟩
    · have settles := settles_finish
        ((bridge.answered attempt header now).lowered attempt.kind attempt.version) attempt
        (.failed (.unsupported attempt.kind)) now
      rw [course, settles.outcomes, settles.pending, outcomes_lowered, outcomes_answered,
        pending_lowered, pending_answered]
      exact Or.inl ⟨_, rfl, rfl⟩
    · have released := sameRequests_releaseIf after attempt.holdsLock now
      have retried := attempt.sameRequest_reissue
        (bridge.answered attempt header now).serials.take.1 version now
      rw [course, released.outcomes, released.pending]
      rcases issued.ends.ending with ⟨last, later, -, inserted, told⟩ |
        ⟨last, reason, later, -, out, told⟩ | ⟨last, later, -, out, -, told⟩
      · rw [pending_retrying, pending_answered] at inserted
        have same := retried.trans later
        refine Or.inr ⟨AnswerCode.isNotSupported_iff.mp refused, ?_, last.holding,
          ⟨same.ticket, same.kind, same.payload, same.origin⟩, inserted⟩
        rw [told, outcomes_retrying, outcomes_answered]
      · rw [told, out, outcomes_retrying, outcomes_answered, pending_retrying, pending_answered]
        exact Or.inl ⟨_, rfl, rfl⟩
      · rw [told, out, outcomes_retrying, outcomes_answered, pending_retrying, pending_answered]
        exact Or.inl ⟨_, rfl, rfl⟩
  · split
    · exact Or.inl ⟨_, finished _⟩
    · exact Or.inl ⟨_, finished _⟩

/-! ## Runs -/

theorem sourced_maintained :
    Maintained fun handedIn (bridge : Bridge χ) => Sourced handedIn bridge where
  perm reordered sourced := sourced.mono reordered.subset
  same same sourced := sourced.of_pending same.pending
  serialTaken sourced := sourced
  timers now sourced := (explained_fireDueTimers sourced now).1
  react _ _ _ sound sourced := (explained_react sound sourced).1

theorem maxAge_maintained (maxAge : Span) :
    Maintained fun _ (bridge : Bridge χ) => bridge.maxAge = maxAge where
  perm _ same := same
  same same kept := same.maxAge.trans kept
  serialTaken kept := kept
  timers {_} bridge now kept := by
    obtain ⟨pending, -, same⟩ := sameRequests_fireLockTimers bridge now
    exact ((settles_ageOut _ now).maxAge.trans same.maxAge).trans kept
  react {_} bridge now event _ sound kept := by
    rw [← kept]
    cases event with
    | submit submission => exact (keeps_submit sound).1
    | answer header payload => exact (keeps_onAnswer sound).1
    | requestAck | listenIndications | listenStatus => rfl
    | indication indication => exact (sameRequests_onIndication bridge indication now).maxAge
    | channelLost => exact (settles_failAll bridge now).maxAge
    | channelRestarted => exact (sameRequests_withDetector bridge bridge.detector.reset).maxAge
    | shutdown =>
        cases running : bridge.running with
        | false => rw [react, shutdown_of_stopped running]
        | true => exact (settles_shutdown running now).maxAge

/-- Each step explains what it tells. -/
theorem explained_call {handedIn : List Submission} {bridge : Bridge χ} {step : Call χ}
    (single : ∀ events now, step ≠ .batch events now)
    (sound : (bridge.call step).collision = none) (sourced : Sourced handedIn bridge) :
    Explained (handedIn ++ step.submissions) bridge (bridge.call step) step := by
  cases step with
  | batch events now => exact absurd rfl (single events now)
  | timers now =>
      rw [Call.submissions, List.append_nil]
      exact (explained_fireDueTimers sourced now).2
  | event event now =>
      have reacts : bridge.call (.event event now) = bridge.react now event :=
        handle_of_sound (collision_of_handle sound) now event
      rw [reacts] at sound ⊢
      exact (explained_react sound sourced).2
  | sampled => exact explained_of_nothing (outcomes_measure _ _)
  | serialTaken | channelChanged | indicationListenerLost | statusListenerLost =>
      exact explained_of_nothing rfl

/-- In every step of every run without a collision of serials: whatever is told is told to requests
that were handed in and is justified by the step, with the age that the settings allow; an answer
under the serial of a current attempt tells that request its outcome or retries it, and leaves all
other attempts as they are; and any other answer changes neither outcomes nor attempts.  The steps
of a run are its calls, with batches taken apart. -/
theorem outcome_provenance (config : BridgeConfig) (serials : SerialSource) (channel : χ)
    (calls earlier later : List (Call χ)) (step : Call χ) (before after : Bridge χ)
    (sound : ((new config serials channel).run calls).collision = none)
    (split : calls.flatMap Call.steps = earlier ++ step :: later)
    (reached : before = (new config serials channel).run earlier)
    (stepped : after = before.call step) :
    before.maxAge = config.requestMaxAge ∧
    Explained ((earlier ++ [step]).flatMap Call.submissions) before after step ∧
    (∀ header payload now attempt, step = .event (.answer header payload) now →
      before.pending.find? header.serial = some attempt →
      (∃ outcome, after.outcomes = before.outcomes ++ [(attempt.ticket, outcome)] ∧
        after.pending = before.pending.erase header.serial) ∨
      (header.code = .requestNotSupported ∧ after.outcomes = before.outcomes ∧
        ∃ retry, attempt.SameRequest retry ∧
          (before.pending.erase header.serial).insert? retry = some after.pending)) ∧
    (∀ header payload now, step = .event (.answer header payload) now →
      before.pending.find? header.serial = none →
      after.outcomes = before.outcomes ∧ after.pending = before.pending) := by
  subst reached stepped
  rw [← run_steps, split, run_append, run_cons] at sound
  have stepSound := collision_of_run sound
  have runSound := collision_of_call stepSound
  have single : ∀ events now, step ≠ .batch events now := by
    have member : step ∈ calls.flatMap Call.steps := by
      rw [split]
      exact List.mem_append_right earlier List.mem_cons_self
    obtain ⟨one, -, inside⟩ := List.mem_flatMap.mp member
    exact not_batch_of_mem_steps inside
  have sourced := sourced_maintained.run [] runSound fun attempt waits =>
    absurd waits List.not_mem_nil
  refine ⟨?_, ?_, ?_, ?_⟩
  · exact (maxAge_maintained config.requestMaxAge).run [] runSound rfl
  · have explained := explained_call single stepSound sourced
    rw [List.flatMap_append, List.flatMap_singleton]
    exact explained
  · rintro header payload now attempt rfl current
    have reacts := handle_of_sound runSound now (.answer header payload)
    have answers : ((new config serials channel).run earlier).call
        (.event (.answer header payload) now) =
          ((new config serials channel).run earlier).onAnswer header payload now := reacts
    rw [answers] at stepSound ⊢
    exact onAnswer_effect current stepSound
  · rintro header payload now rfl stale
    have reacts := handle_of_sound runSound now (.answer header payload)
    have answers : ((new config serials channel).run earlier).call
        (.event (.answer header payload) now) =
          ((new config serials channel).run earlier).onAnswer header payload now := reacts
    have same := sameRequests_onAnswer_of_stale stale payload now
    rw [answers]
    exact ⟨same.outcomes, same.pending⟩

/-- The modem names another kind in its answer: the request is told of its own. -/
theorem outcome_provenance_of_misnamed_answer :
    let submission : Submission := ⟨⟨1⟩, .sendSms, .empty, .unknown, 0, 7⟩
    let answer : Event := .answer ⟨⟨1⟩, .getSimStatus, .modemError, .solicited⟩ .empty
    let before := (new {} (.start 1) ({} : RecordingChannel)).run [.event (.submit submission) 0]
    let after := before.call (.event answer 5)
    after.outcomes = [(7, .failed (.rejected .sendSms .modemError))] ∧
      Explained [submission] before after (.event answer 5) := by
  intro submission answer before after
  have provenance := outcome_provenance {} (.start 1) ({} : RecordingChannel)
    [.event (.submit submission) 0, .event answer 5] [.event (.submit submission) 0] []
    (.event answer 5) before after (by decide +kernel) rfl rfl rfl
  exact ⟨by decide +kernel, provenance.2.1⟩

end

end Bridge

end ModemLink
