/-
Module: ModemLink.Proofs.Run
Purpose: The calls on a bridge, and the runs that are made of them.
Main exports:
  Call, call, run, run_steps, collision_of_run, size_react_le, handleEach_induction, Maintained,
  Maintained.run
-/
import ModemLink.EventLoop
import ModemLink.Proofs.Handlers

namespace ModemLink

/-!
A bridge is driven by calls, in any order and at any instants.  Between two calls callers take
serials, listeners hang up, and the channel changes on its own account.  A batch is one call made of
several steps, and a run can be taken apart into steps.
-/

/-- One call on a bridge, or one thing that happens around it. -/
inductive Call (χ : Type) where
  | batch (events : List Event) (now : Instant)
  | timers (now : Instant)
  | event (event : Event) (now : Instant)
  /-- The number of attempts that wait is sampled, as at the end of a batch. -/
  | sampled
  /-- A caller takes a serial for a request it hands in. -/
  | serialTaken
  | channelChanged (change : χ → χ)
  | indicationListenerLost (listener : ListenerId)
  | statusListenerLost (listener : ListenerId)

/-- The requests handed in by a call. -/
def Call.submissions {χ : Type} : Call χ → List Submission
  | .batch events _ => EventLoop.submissions events
  | .event one _ => EventLoop.submissions [one]
  | .timers _ | .sampled | .serialTaken | .channelChanged _ | .indicationListenerLost _
  | .statusListenerLost _ => []

/-- The steps of a call: those of a batch, or the call itself. -/
def Call.steps {χ : Type} : Call χ → List (Call χ)
  | .batch events now =>
    .timers now :: (Event.inPhaseOrder events).map (fun event => .event event now) ++ [.sampled]
  | call => [call]

namespace EventLoop

@[simp] theorem submissions_nil : submissions [] = [] := rfl

theorem submissions_cons (event : Event) (rest : List Event) :
    submissions (event :: rest) = submissions [event] ++ submissions rest :=
  List.filterMap_append (l := [event])

theorem submissions_append (first second : List Event) :
    submissions (first ++ second) = submissions first ++ submissions second :=
  List.filterMap_append

theorem submissions_perm {events others : List Event} (perm : events.Perm others) :
    (submissions events).Perm (submissions others) :=
  perm.filterMap _

end EventLoop

/-- A batch handles its own events, each once. -/
theorem Event.inPhaseOrder_perm (events : List Event) :
    (Event.inPhaseOrder events).Perm events := by
  induction events with
  | nil => exact .refl _
  | cons event rest ih =>
      cases phase : event.phase with
      | inbound =>
          simp only [inPhaseOrder, List.filter_cons, phase] at ih ⊢
          exact ih.cons event
      | submission =>
          simp only [inPhaseOrder, List.filter_cons, phase, List.append_assoc] at ih ⊢
          exact List.perm_middle.trans (ih.cons event)
      | control =>
          simp only [inPhaseOrder, List.filter_cons, phase] at ih ⊢
          exact List.perm_middle.trans (ih.cons event)

namespace Bridge

variable {χ : Type} [Channel χ]

/-- Handle some events, one after the other. -/
def handleEach (bridge : Bridge χ) (now : Instant) (events : List Event) : Bridge χ :=
  events.foldl (fun bridge event => bridge.handle now event) bridge

/-- Make one call. -/
def call (bridge : Bridge χ) : Call χ → Bridge χ
  | .batch events now => bridge.handleBatch events now
  | .timers now => bridge.fireDueTimers now
  | .event event now => bridge.handle now event
  | .sampled => bridge.measure (.pendingCount bridge.pending.size)
  | .serialTaken => { bridge with serials := bridge.serials.take.2 }
  | .channelChanged change => bridge.onChannel change
  | .indicationListenerLost listener => bridge.forgetIndicationListener listener
  | .statusListenerLost listener => bridge.forgetStatusListener listener

/-- Make some calls, one after the other. -/
def run (bridge : Bridge χ) (calls : List (Call χ)) : Bridge χ :=
  calls.foldl call bridge

@[simp] theorem run_nil (bridge : Bridge χ) : bridge.run [] = bridge := rfl

@[simp] theorem run_cons (bridge : Bridge χ) (first : Call χ) (rest : List (Call χ)) :
    bridge.run (first :: rest) = (bridge.call first).run rest := rfl

theorem run_append (bridge : Bridge χ) (earlier later : List (Call χ)) :
    bridge.run (earlier ++ later) = (bridge.run earlier).run later :=
  List.foldl_append

theorem handleEach_eq_run (bridge : Bridge χ) (now : Instant) (events : List Event) :
    bridge.handleEach now events = bridge.run (events.map fun event => .event event now) := by
  rw [run, List.foldl_map]
  rfl

omit [Channel χ] in
/-- The steps of a call are no batches. -/
theorem not_batch_of_mem_steps {one step : Call χ} (member : step ∈ one.steps)
    (events : List Event) (now : Instant) : step ≠ .batch events now := by
  rintro rfl
  cases one with
  | batch others later =>
      simp [Call.steps] at member
  | timers | event | sampled | serialTaken | channelChanged | indicationListenerLost
  | statusListenerLost => simp [Call.steps] at member

omit [Channel χ] in
/-- The steps of a run are no batches. -/
theorem not_batch_of_mem_run {calls : List (Call χ)} {step : Call χ}
    (member : step ∈ calls.flatMap Call.steps) (events : List Event) (now : Instant) :
    step ≠ .batch events now := by
  obtain ⟨one, -, among⟩ := List.mem_flatMap.mp member
  exact not_batch_of_mem_steps among events now

theorem run_steps_call (bridge : Bridge χ) (one : Call χ) :
    bridge.run one.steps = bridge.call one := by
  cases one with
  | batch events now =>
      rw [Call.steps, List.cons_append, run_cons, run_append, ← handleEach_eq_run]
      rfl
  | timers | event | sampled | serialTaken | channelChanged | indicationListenerLost
  | statusListenerLost => rfl

/-- A run is the run of its steps. -/
theorem run_steps (bridge : Bridge χ) (calls : List (Call χ)) :
    bridge.run (calls.flatMap Call.steps) = bridge.run calls := by
  induction calls generalizing bridge with
  | nil => rfl
  | cons first rest ih => rw [List.flatMap_cons, run_append, run_steps_call, ih, run_cons]

/-! ## Collisions stay -/

theorem handle_of_sound {bridge : Bridge χ} (sound : bridge.collision = none) (now : Instant)
    (event : Event) : bridge.handle now event = bridge.react now event := by
  simp [handle, sound]

theorem collision_of_handle {bridge : Bridge χ} {now : Instant} {event : Event}
    (sound : (bridge.handle now event).collision = none) : bridge.collision = none := by
  cases collided : bridge.collision with
  | none => rfl
  | some attempt =>
      rw [handle, if_pos (by simp [collided]), collided] at sound
      exact sound

theorem collision_of_handleEach {now : Instant} {events : List Event} {bridge : Bridge χ}
    (sound : (bridge.handleEach now events).collision = none) : bridge.collision = none := by
  induction events generalizing bridge with
  | nil => exact sound
  | cons event rest ih => exact collision_of_handle (ih sound)

omit [Channel χ] in
theorem collision_fireDueTimers (bridge : Bridge χ) (now : Instant) :
    (bridge.fireDueTimers now).collision = bridge.collision := by
  obtain ⟨pending, -, same⟩ := sameRequests_fireLockTimers bridge now
  exact (settles_ageOut _ now).collision.trans same.collision

theorem collision_of_call {bridge : Bridge χ} {call : Call χ}
    (sound : (bridge.call call).collision = none) : bridge.collision = none := by
  cases call with
  | batch events now =>
      rw [← collision_fireDueTimers bridge now]
      have handled : ((bridge.fireDueTimers now).handleEach now
          (Event.inPhaseOrder events)).collision = none := sound
      exact collision_of_handleEach handled
  | timers now => exact (collision_fireDueTimers bridge now).symm.trans sound
  | event event now => exact collision_of_handle sound
  | sampled | serialTaken | channelChanged | indicationListenerLost | statusListenerLost =>
      exact sound

/-- Without a collision in the end there was none before. -/
theorem collision_of_run {calls : List (Call χ)} {bridge : Bridge χ}
    (sound : (bridge.run calls).collision = none) : bridge.collision = none := by
  induction calls generalizing bridge with
  | nil => exact sound
  | cons first rest ih => exact collision_of_call (ih sound)

/-! ## Size of the table -/

omit [Channel χ] in
theorem size_fireDueTimers_le (bridge : Bridge χ) (now : Instant) :
    (bridge.fireDueTimers now).pending.size ≤ bridge.pending.size := by
  obtain ⟨pending, bare, same⟩ := sameRequests_fireLockTimers bridge now
  rw [fireDueTimers, (settles_ageOut _ now).pending, ← PendingTable.size_of_bare bare]
  have table : ((bridge.firePrimaryTimer now).fireAckTimer now).pending = pending := same.pending
  rw [table]
  exact List.length_filter_le _ _

theorem size_onAnswer_le {bridge : Bridge χ} {header : AnswerHeader} {payload : Payload}
    {now : Instant} (sound : (bridge.onAnswer header payload now).collision = none) :
    (bridge.onAnswer header payload now).pending.size ≤ bridge.pending.size := by
  cases waiting : bridge.pending.find? header.serial with
  | none =>
      exact Nat.le_of_eq (congrArg PendingTable.size
        (sameRequests_onAnswer_of_stale waiting payload now).pending)
  | some attempt =>
      have size := PendingTable.size_erase waiting
      have table := (sameRequests_answered bridge attempt header now).pending
      rw [onAnswer_of_waiting waiting] at sound ⊢
      split
      · rename_i refused
        rw [if_pos refused] at sound
        rcases fallBack_cases sound with ⟨lowest, course⟩ |
          ⟨version, trace, after, lower, issued, course⟩
        · rw [course, (settles_finish _ attempt _ now).pending, pending_lowered, table]
          exact Nat.le_of_succ_le (Nat.le_of_eq size)
        · rw [course, (sameRequests_releaseIf after attempt.holdsLock now).pending]
          apply Nat.le_trans issued.size_le
          rw [pending_retrying, table]
          exact Nat.le_of_eq size
      · split
        · rw [(settles_finish _ attempt _ now).pending, table]
          exact Nat.le_of_succ_le (Nat.le_of_eq size)
        · rw [(settles_finish _ attempt _ now).pending, table]
          exact Nat.le_of_succ_le (Nat.le_of_eq size)

/-- Only a new request makes the table larger. -/
theorem size_react_le {bridge : Bridge χ} {now : Instant} {event : Event}
    (sound : (bridge.react now event).collision = none) :
    (bridge.react now event).pending.size ≤
      bridge.pending.size + (EventLoop.submissions [event]).length := by
  cases event with
  | submit submission =>
      cases spoken : bridge.versions.current submission.kind with
      | none =>
          rw [react, (settles_submit_of_unspoken spoken now).pending]
          exact Nat.le_succ _
      | some version =>
          obtain ⟨trace, issued⟩ := submit_of_spoken spoken sound
          exact issued.size_le
  | answer header payload => exact size_onAnswer_le sound
  | requestAck serial =>
      exact Nat.le_of_eq (PendingTable.size_of_bare (bridge.pending.bare_acknowledge serial))
  | indication indication =>
      exact Nat.le_of_eq (congrArg PendingTable.size
        (sameRequests_onIndication bridge indication now).pending)
  | channelLost =>
      rw [react, onChannelLost, (settles_failAll bridge now).pending]
      exact Nat.zero_le _
  | channelRestarted =>
      exact Nat.le_of_eq (congrArg PendingTable.size
        (sameRequests_withDetector bridge bridge.detector.reset).pending)
  | listenIndications listener | listenStatus listener => exact Nat.le_refl _
  | shutdown =>
      cases running : bridge.running with
      | false =>
          rw [react, shutdown_of_stopped running]
          exact Nat.le_refl _
      | true =>
          rw [react, (settles_shutdown running now).pending]
          exact Nat.zero_le _

/-! ## Induction over runs -/

/-- What each event keeps, a list of events keeps. -/
theorem handleEach_induction (P : List Event → Bridge χ → Prop) {now : Instant}
    (step : ∀ event rest bridge, bridge.collision = none →
      (bridge.react now event).collision = none → P (event :: rest) bridge →
      P rest (bridge.react now event))
    {events : List Event} {bridge : Bridge χ}
    (sound : (bridge.handleEach now events).collision = none) (start : P events bridge) :
    P [] (bridge.handleEach now events) := by
  induction events generalizing bridge with
  | nil => exact start
  | cons event rest ih =>
      have before : (bridge.handle now event).collision = none := collision_of_handleEach sound
      have reacts := handle_of_sound (collision_of_handle before) now event
      rw [reacts] at before
      have kept := step event rest bridge (collision_of_handle (reacts.symm ▸ before)) before start
      rw [← reacts] at kept
      exact ih sound kept

/-- A property of a bridge and of the requests handed in so far that all calls maintain. -/
structure Maintained (P : List Submission → Bridge χ → Prop) : Prop where
  perm : ∀ {heard others bridge}, heard.Perm others → P heard bridge → P others bridge
  same : ∀ {heard before after}, SameRequests before after → P heard before → P heard after
  serialTaken : ∀ {heard bridge}, P heard bridge →
    P heard { bridge with serials := bridge.serials.take.2 }
  timers : ∀ {heard bridge} now, P heard bridge → P heard (bridge.fireDueTimers now)
  react : ∀ {heard bridge} now event, bridge.collision = none →
    (bridge.react now event).collision = none → P heard bridge →
    P (heard ++ EventLoop.submissions [event]) (bridge.react now event)

namespace Maintained

variable {P : List Submission → Bridge χ → Prop}

theorem handleEach (maintained : Maintained P) {heard : List Submission} {now : Instant}
    {events : List Event} {bridge : Bridge χ}
    (sound : (bridge.handleEach now events).collision = none) (start : P heard bridge) :
    P (heard ++ EventLoop.submissions events) (bridge.handleEach now events) := by
  have handled : ∃ before, events = before ++ [] ∧
      P (heard ++ EventLoop.submissions before) (bridge.handleEach now events) := by
    refine handleEach_induction
      (fun rest bridge => ∃ before, events = before ++ rest ∧
        P (heard ++ EventLoop.submissions before) bridge) ?_ sound ⟨[], rfl, ?_⟩
    · rintro event rest bridge before after ⟨earlier, rfl, kept⟩
      refine ⟨earlier ++ [event], by simp, ?_⟩
      rw [EventLoop.submissions_append, ← List.append_assoc]
      exact maintained.react now event before after kept
    · rw [EventLoop.submissions_nil, List.append_nil]
      exact start
  obtain ⟨before, whole, kept⟩ := handled
  rw [List.append_nil] at whole
  exact whole ▸ kept

theorem call (maintained : Maintained P) (heard : List Submission) {bridge : Bridge χ}
    {call : Call χ} (sound : (bridge.call call).collision = none) (start : P heard bridge) :
    P (heard ++ call.submissions) (bridge.call call) := by
  cases call with
  | batch events now =>
      have fired := maintained.timers now start
      have handled : ((bridge.fireDueTimers now).handleEach now
          (Event.inPhaseOrder events)).collision = none := sound
      have kept := maintained.handleEach handled fired
      have ordered := EventLoop.submissions_perm (Event.inPhaseOrder_perm events)
      show P (heard ++ EventLoop.submissions events) _
      exact maintained.perm (ordered.append_left heard)
        (maintained.same (sameRequests_measure _ _) kept)
  | timers now =>
      rw [Call.submissions, List.append_nil]
      exact maintained.timers now start
  | event event now =>
      have before := collision_of_handle sound
      have reacts : bridge.call (.event event now) = bridge.react now event :=
        handle_of_sound before now event
      rw [reacts] at sound ⊢
      exact maintained.react now event before sound start
  | serialTaken =>
      rw [Call.submissions, List.append_nil]
      exact maintained.serialTaken start
  | sampled =>
      rw [Call.submissions, List.append_nil]
      exact maintained.same (sameRequests_measure _ _) start
  | channelChanged | indicationListenerLost | statusListenerLost =>
      rw [Call.submissions, List.append_nil]
      refine maintained.same ?_ start
      exact ⟨rfl, rfl, rfl, rfl, rfl, rfl, [], (List.append_nil _).symm, by simp⟩

theorem run (maintained : Maintained P) (heard : List Submission) {calls : List (Call χ)}
    {bridge : Bridge χ} (sound : (bridge.run calls).collision = none) (start : P heard bridge) :
    P (heard ++ calls.flatMap Call.submissions) (bridge.run calls) := by
  induction calls generalizing bridge heard with
  | nil => simpa using start
  | cons first rest ih =>
      have kept := maintained.call heard (collision_of_run sound) start
      rw [List.flatMap_cons, ← List.append_assoc]
      exact ih (heard ++ first.submissions) sound kept

end Maintained

end Bridge

end ModemLink
