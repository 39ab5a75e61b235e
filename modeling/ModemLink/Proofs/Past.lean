/-
Module: ModemLink.Proofs.Past
Purpose: Calls act on a bridge whatever its past is.
Main exports: Past, Bridge.onto, Bridge.present, call_onto, call_present
-/
import ModemLink.Proofs.Run

namespace ModemLink

/-!
The journal of a bridge and its count of stale answers are written and never read.  So a call does
the same to a bridge whatever it did before, and adds to the journal and to the count what it would
add to empty ones.
-/

/-- What a bridge wrote down and does not read again. -/
structure Past where
  journal : List Effect
  stale : Nat

namespace Bridge

variable {χ : Type}

/-- The past of a bridge. -/
def past (bridge : Bridge χ) : Past :=
  ⟨bridge.journal, bridge.totals.staleAnswers⟩

/-- The bridge without its past. -/
def present (bridge : Bridge χ) : Bridge χ :=
  { bridge with
    journal := []
    totals := { bridge.totals with staleAnswers := 0 } }

/-- The bridge with more of a past, before its own. -/
def onto (bridge : Bridge χ) (past : Past) : Bridge χ :=
  { bridge with
    journal := bridge.journal ++ past.journal
    totals := { bridge.totals with staleAnswers := bridge.totals.staleAnswers + past.stale } }

theorem present_onto_past (bridge : Bridge χ) : bridge.present.onto bridge.past = bridge := by
  simp [present, past, onto]

variable (bridge : Bridge χ) (past : Past)

theorem history_onto : (bridge.onto past).history = past.journal.reverse ++ bridge.history :=
  List.reverse_append

/-! ## Small steps -/

theorem emit_onto (effects : List Effect) :
    (bridge.onto past).emit effects = (bridge.emit effects).onto past := by
  simp [emit, onto]

theorem schedule_onto (timer : LockTimer) :
    (bridge.onto past).schedule timer = (bridge.schedule timer).onto past := by
  cases timer with
  | mk lock generation deadline => cases lock <;> rfl

theorem acquireLock_onto (now : Instant) :
    (bridge.onto past).acquireLock now = (bridge.acquireLock now).onto past := by
  cases dealt : bridge.locks.acquire now with
  | mk timer rest =>
      have same : (bridge.onto past).locks.acquire now = (timer, rest) := dealt
      cases timer with
      | none =>
          simp only [acquireLock, dealt, same]
          exact emit_onto { bridge with locks := rest.1 } past rest.2
      | some timer =>
          simp only [acquireLock, dealt, same]
          rw [← schedule_onto, ← emit_onto]
          rfl

theorem releaseLock_onto (now : Instant) :
    (bridge.onto past).releaseLock now = (bridge.releaseLock now).onto past :=
  emit_onto { bridge with
    locks := (bridge.locks.release now).1
    primaryTimer := if (bridge.locks.release now).1.primary.isHeld then bridge.primaryTimer
      else none } past (bridge.locks.release now).2

theorem releaseIf_onto (held : Bool) (now : Instant) :
    (bridge.onto past).releaseIf held now = (bridge.releaseIf held now).onto past := by
  cases held with
  | false => rfl
  | true => exact releaseLock_onto bridge past now

theorem recordOutcome_onto (kind : RequestKind) (outcome : Outcome) (latency : Span) :
    (bridge.onto past).recordOutcome kind outcome latency =
      (bridge.recordOutcome kind outcome latency).onto past := by
  unfold recordOutcome
  rw [← emit_onto]
  cases outcome.outcomeClass <;> rfl

theorem finish_onto (attempt : Attempt) (outcome : Outcome) (now : Instant) :
    (bridge.onto past).finish attempt outcome now =
      (bridge.finish attempt outcome now).onto past := by
  rw [finish, releaseIf_onto, recordOutcome_onto, emit_onto]
  rfl

theorem finishAll_onto (attempts : List Attempt) (failure : RequestKind → Failure)
    (now : Instant) :
    (bridge.onto past).finishAll attempts failure now =
      (bridge.finishAll attempts failure now).onto past := by
  induction attempts generalizing bridge with
  | nil => rfl
  | cons attempt rest ih =>
      have first := finish_onto bridge past attempt (.failed (failure attempt.kind)) now
      rw [finishAll, List.foldl_cons, first]
      exact ih _

theorem withDetector_onto (step : Option FaultStatus × FaultDetector) :
    (bridge.onto past).withDetector step = (bridge.withDetector step).onto past := by
  obtain ⟨change, detector⟩ := step
  cases change with
  | none => rfl
  | some status => exact emit_onto { bridge with detector := detector } past _

theorem failAll_onto (now : Instant) :
    (bridge.onto past).failAll now = (bridge.failAll now).onto past :=
  finishAll_onto { bridge with pending := bridge.pending.drain.2 } past bridge.pending.drain.1
    .channelUnavailable now

/-! ## Requests -/

theorem retreat_onto (attempt : Attempt) (failed : Version) (now : Instant) :
    (bridge.onto past).retreat attempt failed now =
      ((bridge.retreat attempt failed now).1,
        (bridge.retreat attempt failed now).2.onto past) := by
  cases next : bridge.versions.next attempt.kind failed with
  | none =>
      have same : (bridge.onto past).versions.next attempt.kind failed = none := next
      rw [retreat_of_lowest next, retreat_of_lowest same]
      exact congrArg _ (finish_onto (bridge.lowered attempt.kind failed) past attempt _ now)
  | some version =>
      have same : (bridge.onto past).versions.next attempt.kind failed = some version := next
      rw [retreat_of_lower next, retreat_of_lower same]
      refine congrArg (some _, ·) ?_
      rw [retrying, retrying, measure, measure, ← emit_onto]
      rfl

section

variable [Channel χ]

theorem dispatch_onto (attempt : Attempt) :
    (bridge.onto past).dispatch attempt =
      ((bridge.dispatch attempt).1, (bridge.dispatch attempt).2.onto past) := by
  refine congrArg (Prod.mk _) ?_
  exact emit_onto { bridge with channel := _ } past _

theorem offer_onto (attempt : Attempt) (now : Instant) :
    (bridge.onto past).offer attempt now =
      ((bridge.offer attempt now).1, (bridge.offer attempt now).2.onto past) := by
  unfold offer
  rw [acquireLock_onto]
  generalize bridge.acquireLock now = middle
  cases inserted : middle.pending.insert? { attempt with holdsLock := true } with
  | none =>
      have same : (middle.onto past).pending.insert? { attempt with holdsLock := true } = none :=
        inserted
      simp only [inserted, same]
      rfl
  | some pending =>
      have same : (middle.onto past).pending.insert? { attempt with holdsLock := true } =
          some pending := inserted
      cases dispatched : { middle with pending := pending }.dispatch
          { attempt with holdsLock := true } with
      | mk result after =>
          have onward : { middle.onto past with pending := pending }.dispatch
              { attempt with holdsLock := true } = (result, after.onto past) :=
            (dispatch_onto _ past _).trans (by rw [dispatched])
          simp only [inserted, same, dispatched, onward]
          cases result with
          | sent version =>
              exact congrArg (Prod.mk _) (emit_onto { after with
                totals := { after.totals with sent := after.totals.sent + 1 } } past _)
          | noUsableVersion =>
              exact congrArg (Prod.mk _) (finish_onto { after with pending := _ } past _ _ now)
          | failed error =>
              cases error with
              | unavailable reason =>
                  exact congrArg (Prod.mk _) (finish_onto { after with pending := _ } past _ _ now)
              | versionUnsupported version => rfl

theorem issue_onto (attempt : Attempt) (now : Instant) :
    (bridge.onto past).issue attempt now = (bridge.issue attempt now).onto past := by
  fun_induction issue bridge attempt now with
  | case1 bridge attempt after dealt =>
      have onward := offer_onto bridge past attempt now
      rw [dealt] at onward
      exact issue_of_dealt onward
  | case2 bridge attempt refused version middle refusal after retreated =>
      have onward := offer_onto bridge past attempt now
      rw [refusal] at onward
      have down := retreat_onto middle past refused version now
      rw [retreated] at down
      rw [issue_of_refused onward, down]
  | case3 bridge attempt refused version middle refusal next retried retreated ih =>
      have onward := offer_onto bridge past attempt now
      rw [refusal] at onward
      have down := retreat_onto middle past refused version now
      rw [retreated] at down
      rw [issue_of_refused onward, down]
      show ((retried.onto past).issue next now).releaseIf refused.holdsLock now = _
      rw [ih, releaseIf_onto]

theorem fallBack_onto (attempt : Attempt) (failed : Version) (now : Instant) :
    (bridge.onto past).fallBack attempt failed now =
      (bridge.fallBack attempt failed now).onto past := by
  unfold fallBack
  rw [retreat_onto]
  cases bridge.retreat attempt failed now with
  | mk next after =>
      cases next with
      | none => rfl
      | some next =>
          show ((after.onto past).issue next now).releaseIf attempt.holdsLock now = _
          rw [issue_onto, releaseIf_onto]

theorem submit_onto (submission : Submission) (now : Instant) :
    (bridge.onto past).submit submission now = (bridge.submit submission now).onto past := by
  have same : (bridge.onto past).versions = bridge.versions := rfl
  unfold submit
  rw [same]
  cases bridge.versions.current submission.kind with
  | none =>
      show ((bridge.onto past).recordOutcome _ _ 0).emit _ = _
      rw [recordOutcome_onto, emit_onto]
  | some version => exact issue_onto bridge past _ now

/-! ## Frames -/

theorem sendAck_onto (now : Instant) :
    (bridge.onto past).sendAck now = (bridge.sendAck now).onto past := by
  cases reply : Channel.sendAck bridge.channel with
  | mk refusal channel =>
      have same : Channel.sendAck (bridge.onto past).channel = (refusal, channel) := reply
      cases refusal with
      | some reason =>
          rw [sendAck_of_refused reply, sendAck_of_refused same]
          exact emit_onto { bridge with channel := channel } past _
      | none =>
          rw [sendAck_of_accepted reply, sendAck_of_accepted same, ← schedule_onto, ← emit_onto]
          rfl

theorem sendAckIf_onto (asked : Bool) (now : Instant) :
    (bridge.onto past).sendAckIf asked now = (bridge.sendAckIf asked now).onto past := by
  cases asked with
  | false => rfl
  | true => exact sendAck_onto bridge past now

theorem answered_onto (attempt : Attempt) (header : AnswerHeader) (now : Instant) :
    (bridge.onto past).answered attempt header now =
      (bridge.answered attempt header now).onto past := by
  have received := sendAckIf_onto { bridge with pending := bridge.pending.erase header.serial } past
    header.type.ackExpected now
  exact (congrArg (fun received : Bridge χ => received.withDetector
    (received.detector.onAnswer attempt.kind header.code now)) received).trans
      (withDetector_onto _ past _)

theorem onAnswer_onto (header : AnswerHeader) (payload : Payload) (now : Instant) :
    (bridge.onto past).onAnswer header payload now =
      (bridge.onAnswer header payload now).onto past := by
  cases waiting : bridge.pending.find? header.serial with
  | none =>
      have same : (bridge.onto past).pending.find? header.serial = none := waiting
      rw [onAnswer_of_stale waiting, onAnswer_of_stale same]
      simp [measure, emit, onto, Nat.add_right_comm]
  | some attempt =>
      have same : (bridge.onto past).pending.find? header.serial = some attempt := waiting
      rw [onAnswer_of_waiting waiting, onAnswer_of_waiting same, answered_onto]
      split
      · exact fallBack_onto _ past attempt _ now
      · split <;> exact finish_onto _ past attempt _ now

theorem onIndication_onto (indication : Indication) (now : Instant) :
    (bridge.onto past).onIndication indication now =
      (bridge.onIndication indication now).onto past := by
  have counted := emit_onto { bridge with totals := { bridge.totals with
    indications := bridge.totals.indications + 1 } } past [.measured .indicationReceived]
  have received := (congrArg (·.sendAckIf indication.type.ackExpected now) counted).trans
    (sendAckIf_onto _ past _ now)
  exact (congrArg (fun received : Bridge χ => received.emit
    (received.indicationListeners.map fun listener => .indicated listener indication))
      received).trans (emit_onto _ past _)

omit [Channel χ] in
theorem shutdown_onto (now : Instant) :
    (bridge.onto past).shutdown now = (bridge.shutdown now).onto past := by
  cases running : bridge.running with
  | false =>
      have same : (bridge.onto past).running = false := running
      rw [shutdown_of_stopped running, shutdown_of_stopped same]
  | true =>
      have same : (bridge.onto past).running = true := running
      unfold shutdown
      rw [if_pos running, if_pos same, failAll_onto]
      generalize bridge.failAll now = failed
      exact emit_onto { failed with
        locks := (failed.locks.releaseAll now).1
        primaryTimer := none
        ackTimer := none
        indicationListeners := []
        statusListeners := []
        running := false } past (failed.locks.releaseAll now).2

/-! ## Timers -/

omit [Channel χ] in
theorem onLockTimer_onto (timer : LockTimer) (now : Instant) :
    (bridge.onto past).onLockTimer timer now = (bridge.onLockTimer timer now).onto past := by
  cases judged : bridge.locks.onTimer timer now with
  | mk expiry rest =>
      obtain ⟨locks, effects⟩ := rest
      have same : (bridge.onto past).locks.onTimer timer now = (expiry, locks, effects) := judged
      cases expiry with
      | released | stale =>
          rw [onLockTimer_of_not_timedOut judged (by simp),
            onLockTimer_of_not_timedOut same (by simp)]
          exact emit_onto { bridge with locks := locks } past effects
      | timedOut outstanding =>
          rw [onLockTimer_of_timedOut judged, onLockTimer_of_timedOut same, ← withDetector_onto,
            ← emit_onto]
          rfl

omit [Channel χ] in
theorem firePrimaryTimer_onto (now : Instant) :
    (bridge.onto past).firePrimaryTimer now = (bridge.firePrimaryTimer now).onto past := by
  cases live : bridge.primaryTimer with
  | none =>
      have same : (bridge.onto past).primaryTimer = none := live
      simp only [firePrimaryTimer, live, same]
  | some timer =>
      have same : (bridge.onto past).primaryTimer = some timer := live
      simp only [firePrimaryTimer, live, same]
      split
      · exact onLockTimer_onto { bridge with primaryTimer := none } past timer now
      · rfl

omit [Channel χ] in
theorem fireAckTimer_onto (now : Instant) :
    (bridge.onto past).fireAckTimer now = (bridge.fireAckTimer now).onto past := by
  cases live : bridge.ackTimer with
  | none =>
      have same : (bridge.onto past).ackTimer = none := live
      simp only [fireAckTimer, live, same]
  | some timer =>
      have same : (bridge.onto past).ackTimer = some timer := live
      simp only [fireAckTimer, live, same]
      split
      · exact onLockTimer_onto { bridge with ackTimer := none } past timer now
      · rfl

omit [Channel χ] in
theorem fireDueTimers_onto (now : Instant) :
    (bridge.onto past).fireDueTimers now = (bridge.fireDueTimers now).onto past := by
  rw [fireDueTimers, firePrimaryTimer_onto, fireAckTimer_onto, fireDueTimers]
  generalize (bridge.firePrimaryTimer now).fireAckTimer now = fired
  exact finishAll_onto { fired with pending := (fired.pending.ageOut now fired.maxAge).2 } past
    (fired.pending.ageOut now fired.maxAge).1 .timedOut now

/-! ## Calls -/

theorem react_onto (now : Instant) (event : Event) :
    (bridge.onto past).react now event = (bridge.react now event).onto past := by
  cases event with
  | submit submission => exact submit_onto bridge past submission now
  | answer header payload => exact onAnswer_onto bridge past header payload now
  | indication indication => exact onIndication_onto bridge past indication now
  | channelLost => exact failAll_onto bridge past now
  | channelRestarted => exact withDetector_onto bridge past _
  | shutdown => exact shutdown_onto bridge past now
  | requestAck | listenIndications | listenStatus => rfl

theorem handle_onto (now : Instant) (event : Event) :
    (bridge.onto past).handle now event = (bridge.handle now event).onto past := by
  have same : (bridge.onto past).collision = bridge.collision := rfl
  unfold handle
  rw [same]
  split
  · rfl
  · exact react_onto bridge past now event

theorem handleEach_onto (now : Instant) (events : List Event) :
    (bridge.onto past).handleEach now events = (bridge.handleEach now events).onto past := by
  induction events generalizing bridge with
  | nil => rfl
  | cons event rest ih =>
      rw [handleEach, List.foldl_cons, handle_onto]
      exact ih _

/-- A call does the same whatever a bridge did before. -/
theorem call_onto (call : Call χ) :
    (bridge.onto past).call call = (bridge.call call).onto past := by
  cases call with
  | batch events now =>
      have handled := handleEach_onto (bridge.fireDueTimers now) past now
        (Event.inPhaseOrder events)
      rw [← fireDueTimers_onto] at handled
      exact (congrArg (fun handled : Bridge χ => handled.measure
        (.pendingCount handled.pending.size)) handled).trans (emit_onto _ past _)
  | timers now => exact fireDueTimers_onto bridge past now
  | event event now => exact handle_onto bridge past now event
  | sampled => exact emit_onto bridge past _
  | serialTaken | channelChanged | indicationListenerLost | statusListenerLost => rfl

/-- A call acts on the present of a bridge. -/
theorem call_eq_onto (call : Call χ) :
    bridge.call call = (bridge.present.call call).onto bridge.past := by
  rw [← call_onto, present_onto_past]

end

end Bridge

end ModemLink
