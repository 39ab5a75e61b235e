/-
Module: ModemLink.Proofs.Audience
Purpose: What the listeners of a bridge are told, step by step.
Main exports:
  Effect.isNews, indicationsTo, statusesTo, Unheard, FaultDetector.heed, FaultDetector.changes,
  News, news_call, indicationsOfSteps, news_steps, Topic, told_steps, doneSince
-/
import ModemLink.Proofs.Books

namespace ModemLink

/-!
Two things reach listeners: indications, which one step of the bridge passes on, and changes of the
fault status, which come from the detector.  Everything else is silent, which `Unheard` says of a
step.  `News before after indications signs` says that between two bridges the detector was told of
`signs`, and that the listeners of the first one got the indications and the changes that came of the
signs, each as often as it is registered.
-/

namespace Effect

/-- Whether this effect reaches a listener. -/
def isNews : Effect → Bool
  | indicated _ _ | statusTold _ _ => true
  | lockTaken _ | lockGivenBack _ | handed _ _ | acknowledged _ | settled _ _ | measured _ => false

/-- What is about a lock reaches no listener. -/
theorem isNews_of_lock {effect : Effect} {lock : LockId} (about : effect.lock? = some lock) :
    effect.isNews = false := by
  cases effect with
  | indicated | statusTold => simp [lock?] at about
  | lockTaken | lockGivenBack | handed | acknowledged | settled | measured => rfl

end Effect

/-- The indications that some effects bring to a listener. -/
def indicationsTo (listener : ListenerId) (effects : List Effect) : List Indication :=
  effects.filterMap (Effect.indicationFor? listener)

/-- The fault statuses that some effects bring to a listener. -/
def statusesTo (listener : ListenerId) (effects : List Effect) : List FaultStatus :=
  effects.filterMap (Effect.statusFor? listener)

variable {listener : ListenerId}

@[simp] theorem indicationsTo_append (old new : List Effect) :
    indicationsTo listener (old ++ new) = indicationsTo listener old ++ indicationsTo listener new :=
  List.filterMap_append

@[simp] theorem statusesTo_append (old new : List Effect) :
    statusesTo listener (old ++ new) = statusesTo listener old ++ statusesTo listener new :=
  List.filterMap_append

/-- None of these effects reaches a listener. -/
def Silent (effects : List Effect) : Prop :=
  ∀ effect ∈ effects, effect.isNews = false

instance (effects : List Effect) : Decidable (Silent effects) :=
  inferInstanceAs (Decidable (∀ effect ∈ effects, _))

namespace Silent

variable {effects more : List Effect}

theorem none : Silent [] := by
  decide

theorem append (silent : Silent effects) (also : Silent more) : Silent (effects ++ more) := by
  intro effect member
  rcases List.mem_append.mp member with old | new
  · exact silent effect old
  · exact also effect new

theorem one {effect : Effect} (silent : effect.isNews = false) : Silent [effect] := by
  intro other member
  rw [List.mem_singleton.mp member]
  exact silent

theorem indicationsTo_eq (silent : Silent effects) : indicationsTo listener effects = [] := by
  apply List.filterMap_eq_nil_iff.mpr
  intro effect member
  have quiet := silent effect member
  cases effect <;> first | rfl | simp [Effect.isNews] at quiet

theorem statusesTo_eq (silent : Silent effects) : statusesTo listener effects = [] := by
  apply List.filterMap_eq_nil_iff.mpr
  intro effect member
  have quiet := silent effect member
  cases effect <;> first | rfl | simp [Effect.isNews] at quiet

end Silent

/-- An indication that is passed on to some listeners reaches each as often as it is among them. -/
theorem indicationsTo_map (listeners : List ListenerId) (indication : Indication) :
    indicationsTo listener (listeners.map fun one => .indicated one indication) =
      List.replicate (listeners.count listener) indication := by
  induction listeners with
  | nil => rfl
  | cons first rest ih =>
      by_cases own : first = listener
      · simp_all [indicationsTo, Effect.indicationFor?, List.replicate_succ]
      · simp_all [indicationsTo, Effect.indicationFor?]

theorem statusesTo_map (listeners : List ListenerId) (status : FaultStatus) :
    statusesTo listener (listeners.map fun one => .statusTold one status) =
      List.replicate (listeners.count listener) status := by
  induction listeners with
  | nil => rfl
  | cons first rest ih =>
      by_cases own : first = listener
      · simp_all [statusesTo, Effect.statusFor?, List.replicate_succ]
      · simp_all [statusesTo, Effect.statusFor?]

/-! ## Changes of the fault status -/

namespace FaultDetector

variable (detector : FaultDetector)

/-- What a detector does with a sign: whether its status changes, and itself afterwards. -/
def heed : Sign → Option FaultStatus × FaultDetector
  | .lockTimeout now => detector.onLockTimeout now
  | .answered kind code now => detector.onAnswer kind code now
  | .restarted => detector.reset

theorem after_eq_heed (sign : Sign) : detector.after sign = (detector.heed sign).2 := by
  cases sign <;> rfl

/-- The changes of the status that come of some signs, in order. -/
def changes : FaultDetector → List Sign → List FaultStatus
  | _, [] => []
  | detector, sign :: rest => (detector.heed sign).1.toList ++ (detector.after sign).changes rest

theorem changes_append (signs more : List Sign) :
    detector.changes (signs ++ more) =
      detector.changes signs ++ (signs.foldl after detector).changes more := by
  induction signs generalizing detector with
  | nil => rfl
  | cons sign rest ih =>
      rw [List.cons_append, changes, ih, changes, List.append_assoc]
      rfl

end FaultDetector

namespace Bridge

variable {χ : Type}

/-! ## Steps that nobody hears of -/

/-- Those who listen to a bridge: for indications, and for changes of the fault status. -/
def audience (bridge : Bridge χ) : List ListenerId × List ListenerId :=
  (bridge.indicationListeners, bridge.statusListeners)

/-- A live timer of the ack lock was live before, or is one that the ack lock handed out. -/
def OwnTimer (before after : Bridge χ) : Prop :=
  ∀ timer, after.ackTimer = some timer → before.ackTimer = some timer ∨ timer.lock = .ack

namespace OwnTimer

variable {first middle last before after : Bridge χ}

theorem of_eq (same : after.ackTimer = before.ackTimer) : OwnTimer before after :=
  fun _ live => Or.inl (same ▸ live)

theorem of_none (ended : after.ackTimer = none) : OwnTimer before after := by
  intro timer live
  rw [ended] at live
  cases live

theorem trans (earlier : OwnTimer first middle) (later : OwnTimer middle last) :
    OwnTimer first last := by
  intro timer live
  rcases later timer live with kept | own
  · exact earlier timer kept
  · exact Or.inr own

end OwnTimer

/-- The detector and the listeners are the same, nothing reached a listener, and a timer of the ack
lock is still the ack lock's. -/
structure Unheard (before after : Bridge χ) : Prop where
  detector : after.detector = before.detector
  audience : after.audience = before.audience
  ackTimer : OwnTimer before after
  history : ∃ effects, after.history = before.history ++ effects ∧ Silent effects

namespace Unheard

theorem of_eq {before after : Bridge χ} (detector : after.detector = before.detector)
    (audience : after.audience = before.audience) (ackTimer : after.ackTimer = before.ackTimer)
    (journal : after.journal = before.journal) : Unheard before after :=
  ⟨detector, audience, .of_eq ackTimer, [], history_of_journal journal, .none⟩

theorem refl (bridge : Bridge χ) : Unheard bridge bridge :=
  .of_eq rfl rfl rfl rfl

theorem trans {first middle last : Bridge χ} (earlier : Unheard first middle)
    (later : Unheard middle last) : Unheard first last := by
  obtain ⟨old, oldHistory, oldSilent⟩ := earlier.history
  obtain ⟨new, newHistory, newSilent⟩ := later.history
  refine ⟨later.detector.trans earlier.detector, later.audience.trans earlier.audience,
    earlier.ackTimer.trans later.ackTimer, old ++ new, ?_, ?_⟩
  · rw [newHistory, oldHistory, List.append_assoc]
  · exact oldSilent.append newSilent

end Unheard

theorem unheard_schedule (bridge : Bridge χ) (timer : LockTimer) :
    Unheard bridge (bridge.schedule timer) := by
  unfold schedule
  split
  · exact .of_eq rfl rfl rfl rfl
  · rename_i own
    refine ⟨rfl, rfl, ?_, [], history_of_journal rfl, .none⟩
    rintro live ⟨⟩
    exact Or.inr own

theorem unheard_acquireLock (bridge : Bridge χ) (now : Instant) :
    Unheard bridge (bridge.acquireLock now) := by
  have silent : Silent (bridge.locks.acquire now).2.2 := by
    intro effect member
    have taken : effect ∈ (bridge.locks.primary.take now).2 := by
      simp only [WakeLocks.acquire] at member
      split at member <;> exact member
    exact Effect.isNews_of_lock (WakeLock.lock_of_mem_take taken)
  unfold acquireLock
  split
  · rename_i timer locks effects acquired
    rw [acquired] at silent
    refine .trans ?_ (unheard_schedule _ timer)
    exact ⟨rfl, rfl, .of_eq rfl, effects, history_of_journal rfl, silent⟩
  · rename_i locks effects acquired
    rw [acquired] at silent
    exact ⟨rfl, rfl, .of_eq rfl, effects, history_of_journal rfl, silent⟩

theorem unheard_releaseLock (bridge : Bridge χ) (now : Instant) :
    Unheard bridge (bridge.releaseLock now) := by
  refine ⟨rfl, rfl, .of_eq rfl, (bridge.locks.primary.drop now).2, history_of_journal rfl, ?_⟩
  exact fun effect member => Effect.isNews_of_lock (WakeLock.lock_of_mem_drop member)

theorem unheard_releaseIf (bridge : Bridge χ) (held : Bool) (now : Instant) :
    Unheard bridge (bridge.releaseIf held now) := by
  cases held with
  | false => exact .refl bridge
  | true => exact unheard_releaseLock bridge now

theorem unheard_told (bridge : Bridge χ) (kind : RequestKind) (outcome : Outcome) (latency : Span)
    (ticket : Ticket) :
    Unheard bridge
      ((bridge.recordOutcome kind outcome latency).emit [.settled ticket outcome]) :=
  ⟨rfl, rfl, .of_eq rfl, [.measured (.completed kind outcome.outcomeClass),
    .measured (.latency kind latency), .settled ticket outcome], history_of_journal rfl,
    by simp [Silent, Effect.isNews]⟩

theorem unheard_finish (bridge : Bridge χ) (attempt : Attempt) (outcome : Outcome)
    (now : Instant) : Unheard bridge (bridge.finish attempt outcome now) :=
  (unheard_releaseIf bridge attempt.holdsLock now).trans
    (unheard_told _ attempt.kind outcome (attempt.latency now) attempt.ticket)

theorem unheard_finishAll (bridge : Bridge χ) (attempts : List Attempt)
    (failure : RequestKind → Failure) (now : Instant) :
    Unheard bridge (bridge.finishAll attempts failure now) := by
  induction attempts generalizing bridge with
  | nil => exact .refl bridge
  | cons attempt rest ih =>
      exact (unheard_finish bridge attempt (.failed (failure attempt.kind)) now).trans (ih _)

theorem unheard_ageOut (bridge : Bridge χ) (now : Instant) :
    Unheard bridge (bridge.ageOut now) := by
  refine .trans ?_ (unheard_finishAll _ _ .timedOut now)
  exact .of_eq rfl rfl rfl rfl

theorem unheard_failAll (bridge : Bridge χ) (now : Instant) :
    Unheard bridge (bridge.failAll now) := by
  refine .trans ?_ (unheard_finishAll _ _ .channelUnavailable now)
  exact .of_eq rfl rfl rfl rfl

/-! ## Requests -/

theorem unheard_handOver (bridge : Bridge χ) (attempt : Attempt) (reply : SendReply) (channel : χ)
    (now : Instant) : Unheard bridge (bridge.handOver attempt reply channel now) := by
  apply (unheard_acquireLock bridge now).trans
  exact ⟨rfl, rfl, .of_eq rfl, _, history_of_journal rfl, .one rfl⟩

theorem unheard_lowered (bridge : Bridge χ) (kind : RequestKind) (failed : Version) :
    Unheard bridge (bridge.lowered kind failed) :=
  .of_eq rfl rfl rfl rfl

theorem unheard_retrying (bridge : Bridge χ) (kind : RequestKind) (failed version : Version) :
    Unheard bridge (bridge.retrying kind failed version) :=
  ⟨rfl, rfl, .of_eq rfl, _, history_of_journal rfl, .one rfl⟩

section

variable [Channel χ]

theorem unheard_of_dealt {bridge after : Bridge χ} {attempt : Attempt} {now : Instant}
    (spoken : bridge.versions.current attempt.kind = some attempt.version)
    (dealt : bridge.offer attempt now = (none, after)) : Unheard bridge after := by
  cases inserted : bridge.pending.insert? attempt.holding with
  | none =>
      rw [offer_of_not_inserted inserted] at dealt
      cases dealt
      exact (unheard_acquireLock bridge now).trans (.of_eq rfl rfl rfl rfl)
  | some pending =>
      cases replied : Channel.send bridge.channel attempt.outbound with
      | mk reply channel =>
          rw [offer_of_inserted spoken inserted replied] at dealt
          have handed := unheard_handOver bridge attempt reply channel now
          cases reply with
          | accepted =>
              cases dealt
              apply handed.trans
              exact ⟨rfl, rfl, .of_eq rfl, _, history_of_journal rfl, .one rfl⟩
          | unavailable reason =>
              cases dealt
              exact handed.trans (unheard_finish _ attempt.holding _ now)
          | versionRefused => simp at dealt

theorem unheard_issue (bridge : Bridge χ) (attempt : Attempt) (now : Instant)
    (spoken : bridge.versions.current attempt.kind = some attempt.version) :
    Unheard bridge (bridge.issue attempt now) := by
  fun_induction issue bridge attempt now with
  | case1 bridge attempt after dealt => exact unheard_of_dealt spoken dealt
  | case2 bridge attempt refused version middle refusal after retreated =>
      obtain ⟨pending, channel, -, -, rfl, rfl, rfl⟩ := offer_eq_some spoken refusal
      obtain ⟨-, rfl⟩ := retreat_eq_none retreated
      apply (unheard_handOver bridge attempt .versionRefused channel now).trans
      exact (unheard_lowered _ _ _).trans (unheard_finish _ _ _ now)
  | case3 bridge attempt refused version middle refusal next retried retreated ih =>
      obtain ⟨pending, channel, -, -, rfl, rfl, rfl⟩ := offer_eq_some spoken refusal
      obtain ⟨lower, next_eq, rfl, rfl⟩ := retreat_eq_some retreated
      have issued := ih (current_retrying next_eq)
      apply (unheard_handOver bridge attempt .versionRefused channel now).trans
      exact ((unheard_retrying _ _ _ lower).trans issued).trans (unheard_releaseIf _ _ now)

theorem unheard_fallBack (bridge : Bridge χ) (attempt : Attempt) (failed : Version)
    (now : Instant) : Unheard bridge (bridge.fallBack attempt failed now) := by
  unfold fallBack
  cases retreated : bridge.retreat attempt failed now with
  | mk retry after =>
      cases retry with
      | none =>
          obtain ⟨-, rfl⟩ := retreat_eq_none retreated
          exact (unheard_lowered bridge attempt.kind failed).trans (unheard_finish _ attempt _ now)
      | some next =>
          obtain ⟨lower, next_eq, rfl, rfl⟩ := retreat_eq_some retreated
          have issued := unheard_issue (bridge.retrying attempt.kind failed lower)
            (attempt.reissue bridge.serials.take.1 lower now) now (current_retrying next_eq)
          exact ((unheard_retrying bridge attempt.kind failed lower).trans issued).trans
            (unheard_releaseIf _ attempt.holdsLock now)

theorem unheard_submit (bridge : Bridge χ) (submission : Submission) (now : Instant) :
    Unheard bridge (bridge.submit submission now) := by
  cases spoken : bridge.versions.current submission.kind with
  | none =>
      rw [submit_of_unspoken spoken]
      exact unheard_told bridge submission.kind _ 0 submission.ticket
  | some version =>
      simp only [submit, spoken]
      exact unheard_issue bridge (.ofSubmission submission version now) now spoken

theorem unheard_sendAck (bridge : Bridge χ) (now : Instant) :
    Unheard bridge (bridge.sendAck now) := by
  rcases reply : Channel.sendAck bridge.channel with ⟨_ | reason, channel⟩
  · rw [sendAck_of_accepted reply]
    refine .trans ?_ (unheard_schedule _ (bridge.locks.holdForAck now).1)
    refine ⟨rfl, rfl, .of_eq rfl, _, history_of_journal rfl, ?_⟩
    have taken : Silent (bridge.locks.ack.take now).2 := fun effect member =>
      Effect.isNews_of_lock (WakeLock.lock_of_mem_take member)
    exact (show Silent [.acknowledged true, .measured .ackSent] by decide).append taken
  · rw [sendAck_of_refused reply]
    exact ⟨rfl, rfl, .of_eq rfl, _, history_of_journal rfl, .one rfl⟩

theorem unheard_sendAckIf (bridge : Bridge χ) (asked : Bool) (now : Instant) :
    Unheard bridge (bridge.sendAckIf asked now) := by
  cases asked with
  | false => exact .refl bridge
  | true => exact unheard_sendAck bridge now

end

/-! ## Steps that reach listeners -/

/-- Between two bridges the detector was told of `signs`, and each listener of the first one got the
indications, and the changes that came of the signs, as often as it is registered.  A timer of the
ack lock is still the ack lock's. -/
structure News (before after : Bridge χ) (indications : List Indication) (signs : List Sign) :
    Prop where
  detector : after.detector = signs.foldl FaultDetector.after before.detector
  ackTimer : OwnTimer before after
  told : ∃ effects, after.history = before.history ++ effects ∧
    (∀ listener, indicationsTo listener effects =
      indications.flatMap (List.replicate (before.indicationListeners.count listener))) ∧
    ∀ listener, statusesTo listener effects =
      (before.detector.changes signs).flatMap
        (List.replicate (before.statusListeners.count listener))

theorem Unheard.news {before after : Bridge χ} (unheard : Unheard before after) :
    News before after [] [] := by
  obtain ⟨effects, grown, silent⟩ := unheard.history
  exact ⟨unheard.detector, unheard.ackTimer, effects, grown, fun _ => silent.indicationsTo_eq,
    fun _ => silent.statusesTo_eq⟩

namespace News

variable {first middle last : Bridge χ} {indications more : List Indication}
  {signs others : List Sign}

theorem trans (earlier : News first middle indications signs)
    (later : News middle last more others) (same : middle.audience = first.audience) :
    News first last (indications ++ more) (signs ++ others) := by
  obtain ⟨old, oldGrown, oldIndications, oldStatuses⟩ := earlier.told
  obtain ⟨new, newGrown, newIndications, newStatuses⟩ := later.told
  obtain ⟨indicationListeners, statusListeners⟩ := Prod.mk.inj same
  constructor
  · rw [later.detector, earlier.detector, List.foldl_append]
  · exact earlier.ackTimer.trans later.ackTimer
  · refine ⟨old ++ new, ?_, ?_, ?_⟩
    · rw [newGrown, oldGrown, List.append_assoc]
    · intro listener
      rw [indicationsTo_append, oldIndications, newIndications, indicationListeners,
        List.flatMap_append]
    · intro listener
      rw [statusesTo_append, oldStatuses, newStatuses, statusListeners, earlier.detector,
        FaultDetector.changes_append, List.flatMap_append]

/-- A silent step before news. -/
theorem of_unheard (unheard : Unheard first middle) (news : News middle last indications signs) :
    News first last indications signs :=
  unheard.news.trans news unheard.audience

/-- A silent step after news. -/
theorem andThen (news : News first middle indications signs) (unheard : Unheard middle last) :
    News first last indications signs := by
  obtain ⟨old, oldGrown, indications, statuses⟩ := news.told
  obtain ⟨new, newGrown, silent⟩ := unheard.history
  refine ⟨unheard.detector.trans news.detector, news.ackTimer.trans unheard.ackTimer,
    old ++ new, ?_, ?_, ?_⟩
  · rw [newGrown, oldGrown, List.append_assoc]
  · intro listener
    rw [indicationsTo_append, silent.indicationsTo_eq, List.append_nil, indications]
  · intro listener
    rw [statusesTo_append, silent.statusesTo_eq, List.append_nil, statuses]

end News

theorem audience_withDetector (bridge : Bridge χ) (step : Option FaultStatus × FaultDetector) :
    (bridge.withDetector step).audience = bridge.audience := by
  obtain ⟨change, detector⟩ := step
  cases change <;> rfl

theorem news_withDetector (bridge : Bridge χ) (sign : Sign) :
    News bridge (bridge.withDetector (bridge.detector.heed sign)) [] [sign] := by
  have moved := bridge.detector.after_eq_heed sign
  cases heeded : bridge.detector.heed sign with
  | mk change detector =>
      rw [heeded] at moved
      cases change with
      | none =>
          refine ⟨moved.symm, .of_eq rfl, [], history_of_journal rfl, fun _ => rfl, fun _ => ?_⟩
          simp [FaultDetector.changes, heeded, statusesTo]
      | some status =>
          have published := history_emit { bridge with detector := detector }
            (.measured (.statusChanged status) ::
              bridge.statusListeners.map fun listener => .statusTold listener status)
          refine ⟨moved.symm, .of_eq rfl, _, published, fun listener => ?_, fun listener => ?_⟩
          · rw [List.flatMap_nil, indicationsTo, List.filterMap_eq_nil_iff]
            intro effect member
            simp only [List.mem_cons, List.mem_map] at member
            rcases member with rfl | ⟨other, -, rfl⟩ <;> rfl
          · have changes : bridge.detector.changes [sign] = [status] := by
              simp [FaultDetector.changes, heeded]
            rw [changes, List.flatMap_singleton]
            exact statusesTo_map bridge.statusListeners status

/-! ## Timers -/

theorem audience_onLockTimer (bridge : Bridge χ) (timer : LockTimer) (now : Instant) :
    (bridge.onLockTimer timer now).audience = bridge.audience := by
  cases judged : bridge.locks.onTimer timer now with
  | mk expiry rest =>
      cases expiry with
      | timedOut outstanding =>
          rw [onLockTimer_of_timedOut judged]
          exact audience_withDetector _ _
      | released | stale =>
          rw [onLockTimer_of_not_timedOut judged (by simp)]
          rfl

/-- What a wake lock does with a timer that fires reaches no listener. -/
theorem silent_onTimer (locks : WakeLocks) (timer : LockTimer) (now : Instant) :
    Silent (locks.onTimer timer now).2.2 := by
  have expired : ∀ lock : WakeLock, Silent (lock.expire timer.generation now).2.2 :=
    fun lock effect member => Effect.isNews_of_lock (WakeLock.lock_of_mem_expire member)
  unfold WakeLocks.onTimer
  split
  · have silent := expired locks.primary
    split
    · rename_i fired
      rw [fired] at silent
      exact silent.append (.one rfl)
    · exact .none
  · have silent := expired locks.ack
    split
    · rename_i fired
      rw [fired] at silent
      exact silent
    · exact .none

theorem news_onLockTimer (bridge : Bridge χ) {timer : LockTimer} {now : Instant}
    (due : timer.deadline ≤ now) :
    News bridge (bridge.onLockTimer timer now) [] (bridge.signsOfTimer (some timer) now) := by
  have silent := silent_onTimer bridge.locks timer now
  simp only [signsOfTimer, if_pos due]
  cases judged : bridge.locks.onTimer timer now with
  | mk expiry rest =>
      rw [judged] at silent
      cases expiry with
      | timedOut outstanding =>
          rw [onLockTimer_of_timedOut judged]
          refine .of_unheard ?_ (news_withDetector _ (.lockTimeout now))
          exact ⟨rfl, rfl, .of_eq rfl, rest.2, history_of_journal rfl, silent⟩
      | released | stale =>
          rw [onLockTimer_of_not_timedOut judged (by simp)]
          exact Unheard.news ⟨rfl, rfl, .of_eq rfl, rest.2, history_of_journal rfl, silent⟩

theorem audience_firePrimaryTimer (bridge : Bridge χ) (now : Instant) :
    (bridge.firePrimaryTimer now).audience = bridge.audience := by
  unfold firePrimaryTimer
  split
  · rfl
  · split
    · exact audience_onLockTimer _ _ now
    · rfl

theorem audience_fireAckTimer (bridge : Bridge χ) (now : Instant) :
    (bridge.fireAckTimer now).audience = bridge.audience := by
  unfold fireAckTimer
  split
  · rfl
  · split
    · exact audience_onLockTimer _ _ now
    · rfl

theorem news_firePrimaryTimer (bridge : Bridge χ) (now : Instant) :
    News bridge (bridge.firePrimaryTimer now) [] (bridge.signsOfTimer bridge.primaryTimer now) := by
  unfold firePrimaryTimer
  cases bridge.primaryTimer with
  | none => exact (Unheard.refl bridge).news
  | some timer =>
      by_cases due : timer.deadline ≤ now
      · simp only [if_pos due]
        have cleared : Unheard bridge { bridge with primaryTimer := none } := .of_eq rfl rfl rfl rfl
        exact .of_unheard cleared (news_onLockTimer { bridge with primaryTimer := none } due)
      · simp only [if_neg due, signsOfTimer]
        exact (Unheard.refl bridge).news

theorem news_fireAckTimer (bridge : Bridge χ) (now : Instant) :
    News bridge (bridge.fireAckTimer now) [] (bridge.signsOfTimer bridge.ackTimer now) := by
  unfold fireAckTimer
  cases bridge.ackTimer with
  | none => exact (Unheard.refl bridge).news
  | some timer =>
      by_cases due : timer.deadline ≤ now
      · simp only [if_pos due]
        have cleared : Unheard bridge { bridge with ackTimer := none } :=
          ⟨rfl, rfl, .of_none rfl, [], history_of_journal rfl, .none⟩
        exact .of_unheard cleared (news_onLockTimer { bridge with ackTimer := none } due)
      · simp only [if_neg due, signsOfTimer]
        exact (Unheard.refl bridge).news

theorem news_fireDueTimers (bridge : Bridge χ) (now : Instant) :
    News bridge (bridge.fireDueTimers now) [] (bridge.signsOfTimers now) :=
  ((news_firePrimaryTimer bridge now).trans (news_fireAckTimer _ now)
    (audience_firePrimaryTimer bridge now)).andThen (unheard_ageOut _ now)

theorem audience_fireDueTimers (bridge : Bridge χ) (now : Instant) :
    (bridge.fireDueTimers now).audience = bridge.audience :=
  ((unheard_ageOut _ now).audience.trans (audience_fireAckTimer _ now)).trans
    (audience_firePrimaryTimer bridge now)

section

variable [Channel χ]

/-! ## Events -/

/-- The indications that a call, if it is no batch, passes on. -/
def indicationsIn (bridge : Bridge χ) : Call χ → List Indication
  | .event (.indication indication) _ => if bridge.collision.isSome then [] else [indication]
  | _ => []

theorem news_onAnswer (bridge : Bridge χ) (sound : bridge.collision = none)
    (header : AnswerHeader) (payload : Payload) (now : Instant) :
    News bridge (bridge.onAnswer header payload now) []
      (bridge.signsIn (.event (.answer header payload) now)) := by
  simp only [signsIn, sound, Option.isSome_none, Bool.false_eq_true, if_false]
  cases waiting : bridge.pending.find? header.serial with
  | none =>
      rw [onAnswer_of_stale waiting]
      exact Unheard.news ⟨rfl, rfl, .of_eq rfl, _, history_of_journal rfl, .one rfl⟩
  | some attempt =>
      have removed : Unheard bridge { bridge with pending := bridge.pending.erase header.serial } :=
        .of_eq rfl rfl rfl rfl
      have received := removed.trans (unheard_sendAckIf _ header.type.ackExpected now)
      have answered : News bridge (bridge.answered attempt header now) []
          [.answered attempt.kind header.code now] :=
        .of_unheard received (news_withDetector _ (.answered attempt.kind header.code now))
      rw [onAnswer_of_waiting waiting]
      split
      · exact answered.andThen (unheard_fallBack _ attempt attempt.version now)
      · split
        · exact answered.andThen (unheard_finish _ attempt _ now)
        · exact answered.andThen (unheard_finish _ attempt _ now)

theorem news_onIndication (bridge : Bridge χ) (indication : Indication) (now : Instant) :
    News bridge (bridge.onIndication indication now) [indication] [] := by
  have counted : Unheard bridge ({ bridge with totals := { bridge.totals with
      indications := bridge.totals.indications + 1 } }.measure .indicationReceived) :=
    ⟨rfl, rfl, .of_eq rfl, _, history_of_journal rfl, .one rfl⟩
  have received := counted.trans (unheard_sendAckIf _ indication.type.ackExpected now)
  refine .of_unheard received ⟨rfl, .of_eq rfl, _, history_emit _ _, ?_, ?_⟩
  · intro listener
    rw [List.flatMap_singleton]
    exact indicationsTo_map _ indication
  · intro listener
    rw [FaultDetector.changes, List.flatMap_nil, statusesTo, List.filterMap_eq_nil_iff]
    intro effect member
    obtain ⟨other, -, rfl⟩ := List.mem_map.mp member
    rfl

omit [Channel χ] in
theorem news_shutdown (bridge : Bridge χ) (now : Instant) :
    News bridge (bridge.shutdown now) [] [] := by
  cases running : bridge.running with
  | false =>
      rw [shutdown_of_stopped running]
      exact (Unheard.refl bridge).news
  | true =>
      simp only [shutdown, running, if_true]
      obtain ⟨detector, -, -, effects, grown, silent⟩ := unheard_failAll bridge now
      have cleared : ∀ lock : WakeLock, Silent (lock.clear now).2 :=
        fun lock effect member => Effect.isNews_of_lock (WakeLock.lock_of_mem_clear member)
      have quiet := silent.append ((cleared (bridge.failAll now).locks.primary).append
        (cleared (bridge.failAll now).locks.ack))
      refine ⟨detector, .of_none rfl, _, ?_, fun _ => quiet.indicationsTo_eq,
        fun _ => quiet.statusesTo_eq⟩
      rw [history_emit, ← List.append_assoc, ← grown]
      rfl

theorem news_react (bridge : Bridge χ) (sound : bridge.collision = none) (event : Event)
    (now : Instant) :
    News bridge (bridge.react now event) (bridge.indicationsIn (.event event now))
      (bridge.signsIn (.event event now)) := by
  cases event with
  | submit submission => exact (unheard_submit bridge submission now).news
  | answer header payload => exact news_onAnswer bridge sound header payload now
  | requestAck serial => exact Unheard.news (.of_eq rfl rfl rfl rfl)
  | indication indication =>
      simp only [indicationsIn, sound, Option.isSome_none, Bool.false_eq_true, if_false]
      exact news_onIndication bridge indication now
  | channelLost => exact (unheard_failAll bridge now).news
  | channelRestarted =>
      simp only [signsIn, sound, Option.isSome_none, Bool.false_eq_true, if_false]
      exact news_withDetector bridge .restarted
  | listenIndications | listenStatus =>
      exact ⟨rfl, .of_eq rfl, [], history_of_journal rfl, fun _ => rfl, fun _ => rfl⟩
  | shutdown => exact news_shutdown bridge now

/-- What a call that is no batch tells those who listen before it. -/
theorem news_call (bridge : Bridge χ) {call : Call χ}
    (single : ∀ events now, call ≠ .batch events now) :
    News bridge (bridge.call call) (bridge.indicationsIn call) (bridge.signsIn call) := by
  cases call with
  | batch events now => exact absurd rfl (single events now)
  | timers now => exact news_fireDueTimers bridge now
  | event event now =>
      cases collided : bridge.collision with
      | none =>
          rw [call, handle_of_sound collided]
          exact news_react bridge collided event now
      | some attempt =>
          have isSome : bridge.collision.isSome = true := by rw [collided]; rfl
          have passed : bridge.indicationsIn (.event event now) = [] := by
            cases event <;> simp [indicationsIn, isSome]
          have told : bridge.signsIn (.event event now) = [] := by
            cases event <;> simp [signsIn, isSome]
          rw [call, handle, if_pos isSome, passed, told]
          exact (Unheard.refl bridge).news
  | sampled => exact Unheard.news ⟨rfl, rfl, .of_eq rfl, _, history_emit bridge _, .one rfl⟩
  | serialTaken | channelChanged => exact Unheard.news (.of_eq rfl rfl rfl rfl)
  | indicationListenerLost | statusListenerLost =>
      exact ⟨rfl, .of_eq rfl, [], history_of_journal rfl, fun _ => rfl, fun _ => rfl⟩

/-! ## Those who listen -/

theorem audience_onAnswer (bridge : Bridge χ) (header : AnswerHeader) (payload : Payload)
    (now : Instant) : (bridge.onAnswer header payload now).audience = bridge.audience := by
  cases waiting : bridge.pending.find? header.serial with
  | none =>
      rw [onAnswer_of_stale waiting]
      rfl
  | some attempt =>
      have answered : (bridge.answered attempt header now).audience = bridge.audience :=
        (audience_withDetector _ _).trans (unheard_sendAckIf _ header.type.ackExpected now).audience
      rw [onAnswer_of_waiting waiting]
      split
      · exact (unheard_fallBack _ attempt attempt.version now).audience.trans answered
      · split
        · exact (unheard_finish _ attempt _ now).audience.trans answered
        · exact (unheard_finish _ attempt _ now).audience.trans answered

/-- Events that neither register a listener nor end the bridge leave those who listen as they
are. -/
theorem audience_react (bridge : Bridge χ) {event : Event} (now : Instant)
    (indications : ∀ listener, event ≠ .listenIndications listener)
    (faults : ∀ listener, event ≠ .listenStatus listener) (running : event ≠ .shutdown) :
    (bridge.react now event).audience = bridge.audience := by
  cases event with
  | submit submission => exact (unheard_submit bridge submission now).audience
  | answer header payload => exact audience_onAnswer bridge header payload now
  | requestAck serial => rfl
  | indication indication => exact (unheard_sendAckIf _ indication.type.ackExpected now).audience
  | channelLost => exact (unheard_failAll bridge now).audience
  | channelRestarted => exact audience_withDetector bridge _
  | listenIndications listener => exact absurd rfl (indications listener)
  | listenStatus listener => exact absurd rfl (faults listener)
  | shutdown => exact absurd rfl running

end

end Bridge

/-- What can be listened to. -/
inductive Topic where
  | indications
  | faults
deriving DecidableEq

namespace Topic

variable {χ : Type}

/-- Those who listen to a topic. -/
def listeners (bridge : Bridge χ) : Topic → List ListenerId
  | indications => bridge.indicationListeners
  | faults => bridge.statusListeners

/-- The event that registers a listener for a topic. -/
def registration (listener : ListenerId) : Topic → Event
  | indications => .listenIndications listener
  | faults => .listenStatus listener

/-- A listener for a topic hangs up. -/
def departure (listener : ListenerId) : Topic → Call χ
  | indications => .indicationListenerLost listener
  | faults => .statusListenerLost listener

/-- In these calls a listener for a topic neither registers nor hangs up, and the bridge is not shut
down. -/
structure Stays (topic : Topic) (listener : ListenerId) (calls : List (Call χ)) : Prop where
  once : ∀ now, .event (topic.registration listener) now ∉ calls
  connected : topic.departure listener ∉ calls
  running : ∀ now, .event .shutdown now ∉ calls

namespace Stays

variable {topic : Topic} {listener : ListenerId} {call : Call χ} {rest : List (Call χ)}

theorem head (stays : topic.Stays listener (call :: rest)) : topic.Stays listener [call] :=
  ⟨fun now member => stays.once now (List.mem_singleton.mp member ▸ List.mem_cons_self),
    fun member => stays.connected (List.mem_singleton.mp member ▸ List.mem_cons_self),
    fun now member => stays.running now (List.mem_singleton.mp member ▸ List.mem_cons_self)⟩

theorem tail (stays : topic.Stays listener (call :: rest)) : topic.Stays listener rest :=
  ⟨fun now member => stays.once now (List.mem_cons_of_mem call member),
    fun member => stays.connected (List.mem_cons_of_mem call member),
    fun now member => stays.running now (List.mem_cons_of_mem call member)⟩

theorem left {earlier later : List (Call χ)} (stays : topic.Stays listener (earlier ++ later)) :
    topic.Stays listener earlier :=
  ⟨fun now member => stays.once now (List.mem_append_left later member),
    fun member => stays.connected (List.mem_append_left later member),
    fun now member => stays.running now (List.mem_append_left later member)⟩

theorem append {earlier later : List (Call χ)} (early : topic.Stays listener earlier)
    (late : topic.Stays listener later) : topic.Stays listener (earlier ++ later) :=
  ⟨fun now member => (List.mem_append.mp member).elim (early.once now) (late.once now),
    fun member => (List.mem_append.mp member).elim early.connected late.connected,
    fun now member => (List.mem_append.mp member).elim (early.running now) (late.running now)⟩

end Stays

theorem listeners_of_audience {topic : Topic} {before after : Bridge χ}
    (same : after.audience = before.audience) : topic.listeners after = topic.listeners before := by
  obtain ⟨indications, faults⟩ := Prod.mk.inj same
  cases topic with
  | indications => exact indications
  | faults => exact faults

end Topic

namespace Bridge

variable {χ : Type} [Channel χ]

theorem count_listeners_react {topic : Topic} (bridge : Bridge χ) {event : Event} {now : Instant}
    (once : event ≠ topic.registration listener) (running : event ≠ .shutdown) :
    (topic.listeners (bridge.react now event)).count listener =
      (topic.listeners bridge).count listener := by
  cases event with
  | shutdown => exact absurd rfl running
  | listenIndications other =>
      cases topic with
      | indications =>
          have another : other ≠ listener := fun same => once (same ▸ rfl)
          simp [react, listenIndications, Topic.listeners, another]
      | faults => rfl
  | listenStatus other =>
      cases topic with
      | indications => rfl
      | faults =>
          have another : other ≠ listener := fun same => once (same ▸ rfl)
          simp [react, listenStatus, Topic.listeners, another]
  | submit | answer | requestAck | indication | channelLost | channelRestarted =>
      have same := audience_react bridge now (by simp) (by simp) running
      exact congrArg _ (Topic.listeners_of_audience same)

/-- A listener that stays is registered as often after a call as before, whoever else comes or
goes. -/
theorem count_listeners_call {topic : Topic} (bridge : Bridge χ) {call : Call χ}
    (single : ∀ events now, call ≠ .batch events now) (stays : topic.Stays listener [call]) :
    (topic.listeners (bridge.call call)).count listener =
      (topic.listeners bridge).count listener := by
  cases call with
  | batch events now => exact absurd rfl (single events now)
  | timers now =>
      exact congrArg _ (Topic.listeners_of_audience (audience_fireDueTimers bridge now))
  | event event now =>
      have once := List.ne_of_not_mem_cons (stays.once now)
      have running := List.ne_of_not_mem_cons (stays.running now)
      simp only [call, handle]
      split
      · rfl
      · exact count_listeners_react bridge (fun same => once (same ▸ rfl))
          (fun same => running (same ▸ rfl))
  | sampled | serialTaken | channelChanged => cases topic <;> rfl
  | indicationListenerLost other =>
      cases topic with
      | indications =>
          have another : listener ≠ other := fun same =>
            List.ne_of_not_mem_cons stays.connected (same ▸ rfl)
          exact List.count_filter (by simpa using another)
      | faults => rfl
  | statusListenerLost other =>
      cases topic with
      | indications => rfl
      | faults =>
          have another : listener ≠ other := fun same =>
            List.ne_of_not_mem_cons stays.connected (same ▸ rfl)
          exact List.count_filter (by simpa using another)

/-! ## Runs -/

theorem count_listeners_steps {topic : Topic} (bridge : Bridge χ) {steps : List (Call χ)}
    (single : ∀ step ∈ steps, ∀ events now, step ≠ .batch events now)
    (stays : topic.Stays listener steps) :
    (topic.listeners (bridge.run steps)).count listener =
      (topic.listeners bridge).count listener := by
  induction steps generalizing bridge with
  | nil => rfl
  | cons step rest ih =>
      have onward := ih (bridge.call step)
        (fun later member => single later (List.mem_cons_of_mem step member)) stays.tail
      exact onward.trans (count_listeners_call bridge (single step List.mem_cons_self) stays.head)

/-- The indications that are passed on in calls that are no batches. -/
def indicationsOfSteps (bridge : Bridge χ) : List (Call χ) → List Indication
  | [] => []
  | step :: rest => bridge.indicationsIn step ++ (bridge.call step).indicationsOfSteps rest

/-- What is told in steps to a listener that stays: the indications that are passed on, and the
changes that come of the signs, as often as it is registered. -/
theorem told_steps (bridge : Bridge χ) {steps : List (Call χ)}
    (single : ∀ step ∈ steps, ∀ events now, step ≠ .batch events now) :
    ∃ effects, (bridge.run steps).history = bridge.history ++ effects ∧
      (∀ listener, Topic.indications.Stays listener steps → indicationsTo listener effects =
        (bridge.indicationsOfSteps steps).flatMap
          (List.replicate (bridge.indicationListeners.count listener))) ∧
      ∀ listener, Topic.faults.Stays listener steps → statusesTo listener effects =
        (bridge.detector.changes (bridge.signsOfSteps steps)).flatMap
          (List.replicate (bridge.statusListeners.count listener)) := by
  induction steps generalizing bridge with
  | nil => exact ⟨[], (List.append_nil _).symm, fun _ _ => rfl, fun _ _ => rfl⟩
  | cons step rest ih =>
      have alone := single step List.mem_cons_self
      obtain ⟨detector, -, old, oldGrown, oldIndications, oldStatuses⟩ := news_call bridge alone
      obtain ⟨new, newGrown, newIndications, newStatuses⟩ :=
        ih (bridge.call step) fun later member => single later (List.mem_cons_of_mem step member)
      refine ⟨old ++ new, ?_, ?_, ?_⟩
      · rw [run_cons, newGrown, oldGrown, List.append_assoc]
      · intro listener stays
        have kept := count_listeners_call bridge alone stays.head
        rw [indicationsTo_append, oldIndications, newIndications listener stays.tail,
          indicationsOfSteps, List.flatMap_append]
        exact congrArg (fun often => _ ++ List.flatMap (List.replicate often) _) kept
      · intro listener stays
        have kept := count_listeners_call bridge alone stays.head
        rw [statusesTo_append, oldStatuses, newStatuses listener stays.tail, signsOfSteps,
          FaultDetector.changes_append, List.flatMap_append, detector]
        exact congrArg (fun often => _ ++ List.flatMap (List.replicate often) _) kept

/-- What was done to the world between two bridges of a run. -/
def doneSince (before after : Bridge χ) : List Effect :=
  after.history.drop before.history.length

omit [Channel χ] in
theorem doneSince_of_grown {before after : Bridge χ} {effects : List Effect}
    (grown : after.history = before.history ++ effects) : doneSince before after = effects := by
  rw [doneSince, grown, List.drop_left]

end Bridge

end ModemLink
