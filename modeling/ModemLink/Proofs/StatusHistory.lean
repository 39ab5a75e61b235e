/-
Module: ModemLink.Proofs.StatusHistory
Purpose: The history of the fault status, as a listener hears it.
Main exports:
  FaultDetector.Follows, heed_cases, Bridge.statusesAlong, destutter_statusesAlong,
  status_listener_hears_history
-/
import Mathlib.Data.List.Destutter
import ModemLink.Proofs.Audience

namespace ModemLink

/-!
A detector that heeds a sign reports a new status exactly when its status changes, and once it has
confirmed a fault only a restart changes it.  So what a detector reports along some signs is the
sequence of its statuses without repetitions; and as a bridge passes every report on to those who
listen, this is what each of them hears.
-/

namespace FaultDetector

variable (detector : FaultDetector)

/-! ## One sign -/

/-- A detector that settles either keeps its status and reports nothing, or reports its new one. -/
theorem settle_cases (status : FaultStatus) :
    (status = detector.status ∧ detector.settle status = (none, detector)) ∨
      status ≠ detector.status ∧
        detector.settle status = (some status, { detector with status := status }) := by
  unfold settle
  by_cases same : status = detector.status
  · exact Or.inl ⟨same, if_pos same⟩
  · exact Or.inr ⟨same, if_neg same⟩

theorem status_prune (now : Instant) : (detector.prune now).status = detector.status := by
  unfold prune
  split <;> rfl

theorem status_countAnswer (kind : RequestKind) (code : AnswerCode) :
    (detector.countAnswer kind code).status = detector.status := by
  unfold countAnswer
  split <;> rfl

theorem verdict_of_confirmed {detector : FaultDetector} (confirmed : detector.status = .confirmed) :
    detector.verdict = .confirmed := by
  simp [verdict, confirmed]

/-- What a detector does with a sign: its rows change and its status stays, and then it settles for
another status.  This is `normal` at a restart, and stays `confirmed` at other signs. -/
theorem heed_eq_settle (sign : Sign) :
    ∃ (counted : FaultDetector) (status : FaultStatus), counted.status = detector.status ∧
      detector.heed sign = counted.settle status ∧ (sign = .restarted → status = .normal) ∧
      (sign ≠ .restarted → detector.status = .confirmed → status = .confirmed) := by
  cases sign with
  | lockTimeout now =>
      have same := status_prune { detector with lockTimeouts := detector.lockTimeouts ++ [now] } now
      refine ⟨_, _, same, rfl, by simp, ?_⟩
      exact fun _ confirmed => verdict_of_confirmed (same.trans confirmed)
  | answered kind code now =>
      have same := ((detector.countAnswer kind code).status_prune now).trans
        (detector.status_countAnswer kind code)
      refine ⟨_, _, same, rfl, by simp, ?_⟩
      exact fun _ confirmed => verdict_of_confirmed (same.trans confirmed)
  | restarted =>
      exact ⟨{ detector with lockTimeouts := [], streaks := .const 0 }, .normal, rfl, rfl,
        fun _ => rfl, fun other => absurd rfl other⟩

/-- How a status may follow another one. -/
def Follows (earlier later : FaultStatus) : Prop :=
  earlier ≠ later ∧ (earlier = .confirmed → later = .normal)

/-- A sign changes the status, which is reported, or it does not; and a confirmed fault ends with a
restart only, in which the status becomes normal. -/
theorem heed_cases (sign : Sign) :
    ((detector.heed sign).1 = none ∧ (detector.after sign).status = detector.status) ∨
      (detector.heed sign).1 = some (detector.after sign).status ∧
        Follows detector.status (detector.after sign).status ∧
        (detector.status = .confirmed → sign = .restarted) := by
  obtain ⟨counted, status, same, heeded, restart, confirmed⟩ := detector.heed_eq_settle sign
  rw [after_eq_heed, heeded]
  rcases counted.settle_cases status with ⟨kept, settled⟩ | ⟨other, settled⟩
  · rw [settled]
    exact Or.inl ⟨rfl, same⟩
  · rw [settled]
    rw [same] at other
    have restarted : detector.status = .confirmed → sign = .restarted := by
      intro before
      by_contra another
      exact other ((confirmed another before).trans before.symm)
    exact Or.inr ⟨rfl, ⟨other.symm, fun before => restart (restarted before)⟩, restarted⟩

/-! ## Many signs -/

theorem isChain_changes (signs : List Sign) :
    (detector.status :: detector.changes signs).IsChain Follows := by
  induction signs generalizing detector with
  | nil => exact .singleton _
  | cons sign rest ih =>
      have onward := ih (detector.after sign)
      rw [changes]
      rcases detector.heed_cases sign with ⟨silent, same⟩ | ⟨reported, follows, -⟩
      · rw [silent, ← same]
        exact onward
      · rw [reported]
        exact .cons_cons follows onward

/-- The last status reported is the status. -/
theorem getLast?_changes (signs : List Sign) :
    (detector.status :: detector.changes signs).getLast? =
      some (signs.foldl after detector).status := by
  induction signs generalizing detector with
  | nil => rfl
  | cons sign rest ih =>
      have onward := ih (detector.after sign)
      rw [changes, List.foldl_cons, ← onward]
      rcases detector.heed_cases sign with ⟨silent, same⟩ | ⟨reported, -, -⟩
      · rw [silent, same]
        rfl
      · rw [reported]
        rfl

/-- At most one sign reports the new status if it is another one. -/
theorem changes_of_short {signs : List Sign} (short : signs.length ≤ 1) :
    detector.changes signs =
      if (signs.foldl after detector).status = detector.status then []
      else [(signs.foldl after detector).status] := by
  match signs, short with
  | [], _ => simp [changes]
  | [sign], _ =>
      rw [List.foldl_cons, List.foldl_nil, changes, changes, List.append_nil]
      rcases detector.heed_cases sign with ⟨silent, same⟩ | ⟨reported, ⟨other, -⟩, -⟩
      · rw [silent, if_pos same]
        rfl
      · rw [reported, if_neg (Ne.symm other)]
        rfl

/-- A confirmed fault stays where no sign is a restart. -/
theorem confirmed_of_not_restarted {signs : List Sign} (going : .restarted ∉ signs)
    (confirmed : detector.status = .confirmed) :
    (signs.foldl after detector).status = .confirmed := by
  induction signs generalizing detector with
  | nil => exact confirmed
  | cons sign rest ih =>
      apply ih (detector.after sign) (mt (List.mem_cons_of_mem sign) going)
      rcases detector.heed_cases sign with ⟨-, same⟩ | ⟨-, -, restarted⟩
      · exact same.trans confirmed
      · exact absurd (restarted confirmed ▸ List.mem_cons_self) going

end FaultDetector

/-- A timer of the ack lock does not time out the primary lock. -/
theorem WakeLocks.not_timedOut_of_ack {timer : LockTimer} (own : timer.lock = .ack)
    (locks : WakeLocks) (now : Instant) (outstanding : UInt32) :
    (locks.onTimer timer now).1 ≠ .timedOut outstanding := by
  unfold onTimer
  rw [own]
  simp only
  split <;> simp

namespace Bridge

variable {χ : Type}

/-! ## Steps of a bridge -/

/-- A live timer of the ack lock is one that the ack lock handed out. -/
def AckOwn (bridge : Bridge χ) : Prop :=
  ∀ timer, bridge.ackTimer = some timer → timer.lock = .ack

theorem OwnTimer.ackOwn {before after : Bridge χ} (kept : OwnTimer before after)
    (own : AckOwn before) : AckOwn after := by
  intro timer live
  rcases kept timer live with earlier | fresh
  · exact own timer earlier
  · exact fresh

theorem ackOwn_new (config : BridgeConfig) (serials : SerialSource) (channel : χ) :
    AckOwn (new config serials channel) := by
  intro timer live
  cases live

theorem length_signsOfTimer_le (bridge : Bridge χ) (timer : Option LockTimer) (now : Instant) :
    (bridge.signsOfTimer timer now).length ≤ 1 := by
  unfold signsOfTimer
  split
  · exact Nat.zero_le 1
  · split
    · split <;> simp
    · exact Nat.zero_le 1

theorem signsOfTimer_of_ackOwn {bridge : Bridge χ} (own : AckOwn bridge) (now : Instant) :
    bridge.signsOfTimer bridge.ackTimer now = [] := by
  cases live : bridge.ackTimer with
  | none => rfl
  | some timer =>
      simp only [signsOfTimer]
      split
      · split
        · rename_i outstanding timedOut
          exact absurd timedOut
            (WakeLocks.not_timedOut_of_ack (own timer live) bridge.locks now outstanding)
        · rfl
        · rfl
      · rfl

/-- A timer tells the detector of timeouts only. -/
theorem mem_signsOfTimer {bridge : Bridge χ} {timer : Option LockTimer} {now : Instant}
    {sign : Sign} (told : sign ∈ bridge.signsOfTimer timer now) : sign = .lockTimeout now := by
  unfold signsOfTimer at told
  split at told
  · exact absurd told List.not_mem_nil
  · split at told
    · split at told
      · exact List.mem_singleton.mp told
      · exact absurd told List.not_mem_nil
      · exact absurd told List.not_mem_nil
    · exact absurd told List.not_mem_nil

/-- In one step the detector is told of one thing at most. -/
theorem length_signsIn_le {bridge : Bridge χ} (own : AckOwn bridge) (step : Call χ) :
    (bridge.signsIn step).length ≤ 1 := by
  cases step with
  | timers now =>
      have later := (news_firePrimaryTimer bridge now).ackTimer.ackOwn own
      simp only [signsIn, signsOfTimers, signsOfTimer_of_ackOwn later, List.append_nil]
      exact length_signsOfTimer_le bridge bridge.primaryTimer now
  | event event now =>
      cases event with
      | answer header payload =>
          simp only [signsIn]
          split
          · exact Nat.zero_le 1
          · split <;> simp
      | channelRestarted =>
          simp only [signsIn]
          split <;> simp
      | submit | requestAck | indication | channelLost | listenIndications | listenStatus
      | shutdown => exact Nat.zero_le 1
  | batch | sampled | serialTaken | channelChanged | indicationListenerLost | statusListenerLost =>
      exact Nat.zero_le 1

/-- The detector is told of a restart by the event of a restart only. -/
theorem restart_of_mem_signsIn {bridge : Bridge χ} {step : Call χ}
    (restarted : .restarted ∈ bridge.signsIn step) :
    ∃ now, step = .event .channelRestarted now := by
  cases step with
  | timers now =>
      rcases List.mem_append.mp restarted with primary | ack
      · exact absurd (mem_signsOfTimer primary) (by simp)
      · exact absurd (mem_signsOfTimer ack) (by simp)
  | event event now =>
      cases event with
      | channelRestarted => exact ⟨now, rfl⟩
      | answer header payload =>
          simp only [signsIn] at restarted
          split at restarted
          · exact absurd restarted List.not_mem_nil
          · split at restarted <;> simp at restarted
      | submit | requestAck | indication | channelLost | listenIndications | listenStatus
      | shutdown => exact absurd restarted List.not_mem_nil
  | batch | sampled | serialTaken | channelChanged | indicationListenerLost | statusListenerLost =>
      exact absurd restarted List.not_mem_nil

section

variable [Channel χ]

/-- The status at first, and after each of some steps. -/
def statusesAlong (bridge : Bridge χ) : List (Call χ) → List FaultStatus
  | [] => [bridge.detector.status]
  | step :: rest => bridge.detector.status :: (bridge.call step).statusesAlong rest

theorem statusesAlong_eq_cons (bridge : Bridge χ) (steps : List (Call χ)) :
    ∃ rest, bridge.statusesAlong steps = bridge.detector.status :: rest := by
  cases steps with
  | nil => exact ⟨[], rfl⟩
  | cons step rest => exact ⟨_, rfl⟩

/-- The changes that come of all signs in some steps are the statuses without repetitions. -/
theorem destutter_statusesAlong {bridge : Bridge χ} (own : AckOwn bridge) {steps : List (Call χ)}
    (single : ∀ step ∈ steps, ∀ events now, step ≠ .batch events now) :
    (bridge.statusesAlong steps).destutter (· ≠ ·) =
      bridge.detector.status :: bridge.detector.changes (bridge.signsOfSteps steps) := by
  induction steps generalizing bridge with
  | nil => rfl
  | cons step rest ih =>
      have news := news_call bridge (single step List.mem_cons_self)
      obtain ⟨later, shown⟩ := (bridge.call step).statusesAlong_eq_cons rest
      have onward := ih (news.ackTimer.ackOwn own) fun one member =>
        single one (List.mem_cons_of_mem step member)
      rw [shown, List.destutter_cons'] at onward
      rw [statusesAlong, shown, List.destutter_cons', signsOfSteps, FaultDetector.changes_append,
        FaultDetector.changes_of_short _ (length_signsIn_le own step), ← news.detector]
      by_cases same : (bridge.call step).detector.status = bridge.detector.status
      · rw [List.destutter'_cons_neg _ (by simp [same]), if_pos same, ← same, onward]
        rfl
      · rw [List.destutter'_cons_pos _ (Ne.symm same), onward, if_neg same]
        rfl

theorem ackOwn_steps {bridge : Bridge χ} (own : AckOwn bridge) {steps : List (Call χ)}
    (single : ∀ step ∈ steps, ∀ events now, step ≠ .batch events now) :
    AckOwn (bridge.run steps) := by
  induction steps generalizing bridge with
  | nil => exact own
  | cons step rest ih =>
      have news := news_call bridge (single step List.mem_cons_self)
      exact ih (news.ackTimer.ackOwn own) fun one member =>
        single one (List.mem_cons_of_mem step member)

/-- What one step tells a listener that is registered once and stays: the new status, if it is
another one. -/
theorem statusesTo_step {bridge : Bridge χ} (own : AckOwn bridge) {step : Call χ}
    (single : ∀ events now, step ≠ .batch events now)
    (registered : bridge.statusListeners.count listener = 1) :
    statusesTo listener (doneSince bridge (bridge.call step)) =
      if (bridge.call step).detector.status = bridge.detector.status then []
      else [(bridge.call step).detector.status] := by
  obtain ⟨detector, -, effects, grown, -, statuses⟩ := news_call bridge single
  rw [doneSince_of_grown grown, statuses, registered,
    FaultDetector.changes_of_short _ (length_signsIn_le own step), ← detector]
  split <;> rfl

/-- A confirmed fault ends with the event of a restart only, after which the status is normal. -/
theorem restart_of_confirmed {bridge : Bridge χ} {step : Call χ}
    (single : ∀ events now, step ≠ .batch events now)
    (confirmed : bridge.detector.status = .confirmed)
    (ended : (bridge.call step).detector.status ≠ .confirmed) :
    ∃ now, step = .event .channelRestarted now := by
  by_contra going
  have news := news_call bridge single
  rw [news.detector] at ended
  exact ended (FaultDetector.confirmed_of_not_restarted _
    (fun restarted => going (restart_of_mem_signsIn restarted)) confirmed)

/-- From its registration on, until it hangs up or the bridge is shut down, a listener for changes
of the fault status hears the statuses that the detector has from step to step, each change once and
in order, whoever else listens: what it hears after the status at its registration has no repetition,
goes from a confirmed fault to a normal status only, and ends with the present status.  Step by step,
it hears the new status where it is another one and nothing where it is the same, and a confirmed
fault ends in the event of a restart only. -/
theorem status_listener_hears_history (config : BridgeConfig) (serials : SerialSource)
    (channel : χ) (calls earlier since later : List (Call χ)) (listener : ListenerId)
    (now : Instant)
    (steps : calls.flatMap Call.steps =
      earlier ++ .event (.listenStatus listener) now :: (since ++ later))
    (sound : ((new config serials channel).run earlier).collision = none)
    (fresh : listener ∉ ((new config serials channel).run earlier).statusListeners)
    (stays : Topic.faults.Stays listener since) :
    let registered :=
      (new config serials channel).run (earlier ++ [.event (.listenStatus listener) now])
    let bridge := registered.run since
    let known := registered.detector.status :: statusesTo listener (doneSince registered bridge)
    known = (registered.statusesAlong since).destutter (· ≠ ·) ∧
    known.IsChain FaultDetector.Follows ∧
    known.getLast? = some bridge.detector.status ∧
    ∀ before step after, since = before ++ step :: after →
      let middle := registered.run before
      let next := middle.call step
      statusesTo listener (doneSince middle next) =
        (if next.detector.status = middle.detector.status then []
          else [next.detector.status]) ∧
      (middle.detector.status = .confirmed → next.detector.status ≠ .confirmed →
        ∃ restart, step = .event .channelRestarted restart) := by
  intro registered bridge known
  have singleSince : ∀ step ∈ since, ∀ events now, step ≠ .batch events now := by
    intro step member
    have among : step ∈ calls.flatMap Call.steps := by simp [steps, member]
    exact not_batch_of_mem_run among
  have own : AckOwn registered := by
    apply ackOwn_steps (ackOwn_new config serials channel)
    intro step member
    have among : step ∈ calls.flatMap Call.steps := by
      rw [steps, List.append_cons]
      exact List.mem_append_left _ member
    exact not_batch_of_mem_run among
  have once : registered.statusListeners.count listener = 1 := by
    have added : registered.statusListeners =
        ((new config serials channel).run earlier).statusListeners ++ [listener] := by
      show ((new config serials channel).run (earlier ++ [_])).statusListeners = _
      rw [run_append, run_cons, run_nil, call, handle_of_sound sound]
      rfl
    rw [added, List.count_append, List.count_eq_zero.mpr fresh, List.count_singleton_self]
  obtain ⟨effects, grown, -, told⟩ := told_steps registered singleSince
  have heard : known = registered.detector.status ::
      registered.detector.changes (registered.signsOfSteps since) := by
    show _ :: statusesTo listener (doneSince registered bridge) = _
    rw [doneSince_of_grown grown, told listener stays, once]
    exact congrArg (_ :: ·) (List.flatMap_singleton' _)
  have detector : bridge.detector =
      (registered.signsOfSteps since).foldl FaultDetector.after registered.detector :=
    (booked_steps registered singleSince).detector
  refine ⟨?_, ?_, ?_, ?_⟩
  · rw [heard, destutter_statusesAlong own singleSince]
  · rw [heard]
    exact registered.detector.isChain_changes _
  · rw [heard, detector]
    exact registered.detector.getLast?_changes _
  · rintro before step after rfl middle next
    have singleBefore : ∀ one ∈ before, ∀ events now, one ≠ .batch events now :=
      fun one member => singleSince one (List.mem_append_left _ member)
    have singleStep := singleSince step (by simp)
    have registeredStill : middle.statusListeners.count listener = 1 :=
      (count_listeners_steps registered singleBefore stays.left).trans once
    exact ⟨statusesTo_step (ackOwn_steps own singleBefore) singleStep registeredStill,
      restart_of_confirmed singleStep⟩

/-- With thresholds of one and two errors, a listener hears of a suspicion, of a fault and of its end
by a restart, while another one comes and goes. -/
theorem status_listener_hears_restart :
    let config : BridgeConfig :=
      { detector := { systemErrorThreshold := 1, systemErrorConfirmThreshold := 2 } }
    let refused := fun serial => Event.answer (.plain serial .sendSms .systemError) .empty
    let since : List (Call RecordingChannel) :=
      [.event (.listenStatus 3) 0, .sampled, .timers 10,
        .event (.submit ⟨⟨1⟩, .sendSms, .empty, .unknown, 10, 0⟩) 10,
        .event (.submit ⟨⟨2⟩, .sendSms, .empty, .unknown, 10, 1⟩) 10, .sampled, .timers 20,
        .event (refused ⟨1⟩) 20, .event (refused ⟨2⟩) 20, .sampled, .statusListenerLost 3,
        .timers 30, .event .channelRestarted 30, .sampled]
    let registered :=
      (new config (.start 1) ({} : RecordingChannel)).run [.timers 0, .event (.listenStatus 7) 0]
    let known := registered.detector.status ::
      statusesTo 7 (doneSince registered (registered.run since))
    known = [.normal, .repetitiveErrorSuspected, .confirmed, .normal] ∧
      known.IsChain FaultDetector.Follows := by
  intro config refused since registered known
  let calls : List (Call RecordingChannel) :=
    [.batch [.listenStatus 7, .listenStatus 3] 0,
      .batch [.submit ⟨⟨1⟩, .sendSms, .empty, .unknown, 10, 0⟩,
        .submit ⟨⟨2⟩, .sendSms, .empty, .unknown, 10, 1⟩] 10,
      .batch [refused ⟨1⟩, refused ⟨2⟩] 20, .statusListenerLost 3, .batch [.channelRestarted] 30]
  have hears := status_listener_hears_history config (.start 1) ({} : RecordingChannel) calls
    [.timers 0] since [] 7 0 rfl (by decide +kernel) (by decide +kernel)
    ⟨by simp [since, Topic.registration, refused], by simp [since, Topic.departure],
      by simp [since, refused]⟩
  have along : (registered.statusesAlong since).destutter (· ≠ ·) =
      [.normal, .repetitiveErrorSuspected, .confirmed, .normal] := by decide +kernel
  exact ⟨hears.1.trans along, hears.2.1⟩

end

end Bridge

end ModemLink
