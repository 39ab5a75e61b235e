/-
Module: ModemLink.Proofs.Counters
Purpose: What the counters of 32 bits count, and how far they are exact.
Main exports:
  Attempt.CountedWithin, Lined.counted_handed, Lined.counted_made, OnlyTaken, onlyTaken_call,
  KeepsUp, held_of_keepsUp, givenBack_fireDueTimers, counters_exact, counters_back_to_zero
-/
import ModemLink.Proofs.FrameAcks
import ModemLink.Proofs.Retries
import ModemLink.Proofs.Rows
import ModemLink.Proofs.Wakeups

namespace ModemLink

/-!
Four things are counted in 32 bits, and each is bounded by something else, if at all.  The number of
an attempt grows on the way down a ladder, which has few rungs.  The references to the primary lock
have owners under different serials, and above them a few on the way down a ladder.  A row of
designated errors, and the acknowledgements in one hold of the ack lock, go on for as long as the
modem sends them: these two counters are exact up to their size, and not beyond it.

Within that bound the ack lock is held through any number of frames.  This is read off its counter:
whatever a call does, short of the timer and of a shutdown, adds one reference for each
acknowledgement and takes none away.  Had the lock been given back in between, the counter would
have started anew.
-/

/-! ## Numbers of attempts -/

/-- The number of an attempt is one that a ladder allows, and the next attempt has the next one. -/
structure Attempt.CountedWithin (kind : RequestKind) (attempt : Attempt) : Prop where
  positive : 0 < attempt.number.toNat
  few : attempt.number.toNat ≤ kind.ladder.rungs.length
  next : ∀ serial version now,
    (attempt.reissue serial version now).number.toNat = attempt.number.toNat + 1

theorem Attempt.countedWithin_of_few {kind : RequestKind} {attempt : Attempt}
    (positive : 0 < attempt.number.toNat)
    (few : attempt.number.toNat ≤ kind.ladder.rungs.length) : attempt.CountedWithin kind where
  positive := positive
  few := few
  next := by
    intro serial version now
    have rungs : attempt.number.toNat + 1 < UInt32.size := by
      refine Nat.lt_of_le_of_lt (Nat.succ_le_succ (few.trans kind.length_rungs_le)) ?_
      decide
    show (attempt.number + 1).toNat = _
    rw [UInt32.toNat_add, UInt32.toNat_one]
    exact Nat.mod_eq_of_lt rungs

namespace Lined

variable {handedIn : List Submission} {trace : List Handed} {lives : List Live} {lines : List Line}

/-- What was handed over is numbered within the ladder of its kind. -/
theorem counted_handed (lined : Lined handedIn trace lives lines) {handed : Handed}
    (member : handed ∈ trace) : handed.attempt.CountedWithin handed.request.kind := by
  obtain ⟨line, there, made⟩ := List.mem_flatMap.mp (lined.made.mem_iff.mpr member)
  have attempts := (lined.sound line there).attempts
  have number : handed.attempt.number.toNat ∈ List.range' 1 line.made.length := by
    rw [← attempts.numbers]
    exact List.mem_map_of_mem made
  obtain ⟨positive, below⟩ := List.mem_range'_1.mp number
  have few : handed.attempt.number.toNat ≤ line.submission.kind.ladder.rungs.length := by
    have rungs := attempts.few
    omega
  rw [(attempts.same handed made).2]
  exact Attempt.countedWithin_of_few positive few

/-- What waits is numbered within the ladder of its kind. -/
theorem counted_made (lined : Lined handedIn trace lives lines) {attempt : Attempt}
    (member : Live.made attempt ∈ lives) : attempt.CountedWithin attempt.kind := by
  obtain ⟨line, there, own⟩ := List.mem_filterMap.mp (lined.lives.mem_iff.mpr member)
  have last : attempt.IsLast line.submission line.made := (lined.sound line there).goesOn _ own
  have number := last.number
  have room := last.room
  have made := List.length_pos_iff.mpr last.some
  rw [last.own.kind]
  exact Attempt.countedWithin_of_few (by omega) (by omega)

end Lined

/-! ## Rows of errors -/

/-- Nothing but designated errors for a kind is one row. -/
theorem streakIn_replicate {config : DetectorConfig} {kind : RequestKind} {sign : Sign}
    (error : sign.isError config kind = true) (going : sign.endsStreak config kind = false)
    (length : Nat) : streakIn config kind (List.replicate length sign) = length := by
  induction length with
  | zero => rfl
  | succ length ih =>
      rw [streakIn] at ih
      rw [List.replicate_succ', streakIn, signsSince_going going, List.countP_append, ih,
        List.countP_singleton, if_pos error]

/-! ## Acknowledgements among effects -/

theorem not_acknowledged_of_silent {effects : List Effect} (silent : ackReplies effects = [])
    (accepted : Bool) : .acknowledged accepted ∉ effects := by
  intro member
  have none := List.filterMap_eq_nil_iff.mp silent _ member
  exact Option.some_ne_none _ none

theorem count_acknowledged (effects : List Effect) :
    effects.count (.acknowledged true) = (ackReplies effects).count true := by
  induction effects with
  | nil => rfl
  | cons effect rest ih =>
      have parts : ackReplies (effect :: rest) = effect.ackReply?.toList ++ ackReplies rest := by
        rw [ackReplies, List.filterMap_cons]
        cases effect.ackReply? <;> rfl
      rw [parts, List.count_append, List.count_cons, ih, Nat.add_comm]
      congr 1
      cases effect with
      | acknowledged accepted => cases accepted <;> rfl
      | lockTaken | lockGivenBack | handed | settled | indicated | statusTold | measured => rfl

/-- A hold in which every acknowledgement still counts was not interrupted. -/
theorem not_givenBack_of_frames {effects : List Effect} {frames : Nat} (held : 0 < frames)
    (all : effects.foldl Effect.framesAfter frames =
      frames + effects.count (.acknowledged true)) : .lockGivenBack .ack ∉ effects := by
  intro member
  obtain ⟨before, after, rfl⟩ := List.append_of_mem member
  have anew := foldl_framesAfter_le after 0
  rw [List.foldl_append, List.foldl_cons, List.count_append, List.count_cons] at all
  have restarted : ∀ frames, (Effect.lockGivenBack .ack).framesAfter frames = 0 := fun _ => rfl
  rw [restarted] at all
  omega

namespace WakeLocks

/-- A timer of the primary lock leaves the ack lock alone. -/
theorem ack_onTimer_of_primary {timer : LockTimer} (own : timer.lock = .primary) (locks : WakeLocks)
    (now : Instant) : (locks.onTimer timer now).2.1.ack = locks.ack := by
  simp only [onTimer, own]
  split <;> rfl

end WakeLocks

/-- The events of a call. -/
def Call.events {χ : Type} : Call χ → List Event
  | .batch events _ => events
  | .event one _ => [one]
  | .timers _ | .sampled | .serialTaken | .channelChanged _ | .indicationListenerLost _
  | .statusListenerLost _ => []

namespace Bridge

variable {χ : Type} [Channel χ] {bridge before after first middle last : Bridge χ}
  {now : Instant}

/-! ## Steps that only take the ack lock -/

/-- From `before` to `after` the ack lock was taken once for each acknowledgement that the channel
took, and nothing else happened to its counter. -/
structure OnlyTaken (before after : Bridge χ) : Prop where
  make : after.locks.make = before.locks.make
  count : ∃ effects, after.history = before.history ++ effects ∧
    after.locks.ack.count =
      before.locks.ack.count + UInt32.ofNat (effects.count (.acknowledged true))

theorem AckUntouched.onlyTaken (untouched : AckUntouched before after) :
    OnlyTaken before after := by
  obtain ⟨effects, grown, silent⟩ := untouched.history
  refine ⟨untouched.make, effects, grown, ?_⟩
  rw [List.count_eq_zero.mpr (not_acknowledged_of_silent silent true), untouched.lock]
  exact (UInt32.add_zero _).symm

namespace OnlyTaken

theorem refl (bridge : Bridge χ) : OnlyTaken bridge bridge :=
  (AckUntouched.refl bridge).onlyTaken

omit [Channel χ] in
theorem trans (earlier : OnlyTaken first middle) (later : OnlyTaken middle last) :
    OnlyTaken first last := by
  obtain ⟨old, oldHistory, oldCount⟩ := earlier.count
  obtain ⟨new, newHistory, newCount⟩ := later.count
  refine ⟨later.make.trans earlier.make, old ++ new, ?_, ?_⟩
  · rw [newHistory, oldHistory, List.append_assoc]
  · rw [newCount, oldCount, List.count_append, UInt32.ofNat_add, UInt32.add_assoc]

end OnlyTaken

theorem onlyTaken_sendAck (named : bridge.locks.ack.id = .ack) (now : Instant) :
    OnlyTaken bridge (bridge.sendAck now) := by
  obtain ⟨effects, grown, replies, -, taken, refused⟩ := sendAck_cases named now
  refine ⟨(timely_sendAck bridge now).make, effects, grown, ?_⟩
  rw [count_acknowledged, replies]
  cases accepted : (Channel.sendAck bridge.channel).1.isNone with
  | true =>
      rw [(taken accepted).1]
      exact bridge.locks.ack.count_take_eq_add now
  | false =>
      rw [(refused accepted).1]
      exact (UInt32.add_zero _).symm

theorem onlyTaken_frame (named : bridge.locks.ack.id = .ack) (frame : ModemFrame) (now : Instant) :
    OnlyTaken bridge (bridge.react now frame.event) := by
  by_cases heeds : bridge.Heeds frame
  · obtain ⟨received, before, after⟩ := received_frame heeds now
    have acked : OnlyTaken received (received.sendAckIf frame.asksForAck now) := by
      cases frame.asksForAck with
      | false => exact .refl received
      | true => exact onlyTaken_sendAck (before.locks ▸ named) now
    exact (before.untouched.onlyTaken.trans acked).trans after.onlyTaken
  · exact (ackUntouched_of_not_heeded heeds now).onlyTaken

theorem ackUntouched_submit (bridge : Bridge χ) (submission : Submission) (now : Instant) :
    AckUntouched bridge (bridge.submit submission now) := by
  cases spoken : bridge.versions.current submission.kind with
  | none =>
      rw [submit_of_unspoken spoken]
      exact .of_eq [_, _, _] rfl rfl rfl rfl rfl
  | some version =>
      have issued := ackUntouched_issue bridge (.ofSubmission submission version now) now spoken
      simpa only [submit, spoken] using issued

theorem ackUntouched_finishAll (bridge : Bridge χ) (attempts : List Attempt)
    (failure : RequestKind → Failure) (now : Instant) :
    AckUntouched bridge (bridge.finishAll attempts failure now) := by
  induction attempts generalizing bridge with
  | nil => exact .refl bridge
  | cons attempt rest ih =>
      exact (ackUntouched_finish bridge attempt (.failed (failure attempt.kind)) now).trans (ih _)

theorem ackUntouched_withPending (bridge : Bridge χ) (pending : PendingTable) :
    AckUntouched bridge { bridge with pending := pending } :=
  .of_eq [] rfl rfl rfl rfl rfl

/-- Short of a shutdown, whatever happens takes the ack lock at most. -/
theorem onlyTaken_react (named : bridge.locks.ack.id = .ack) {event : Event}
    (goesOn : event ≠ .shutdown) (now : Instant) : OnlyTaken bridge (bridge.react now event) := by
  cases event with
  | submit submission => exact (ackUntouched_submit bridge submission now).onlyTaken
  | answer header payload => exact onlyTaken_frame named (.answer header payload) now
  | requestAck serial => exact (ackUntouched_withPending bridge _).onlyTaken
  | indication indication => exact onlyTaken_frame named (.indication indication) now
  | channelLost =>
      exact ((ackUntouched_withPending bridge .empty).trans
        (ackUntouched_finishAll _ _ .channelUnavailable now)).onlyTaken
  | channelRestarted => exact (ackUntouched_withDetector bridge _).onlyTaken
  | listenIndications listener =>
      have untouched : AckUntouched bridge (bridge.listenIndications listener) :=
        .of_eq [] rfl rfl rfl rfl rfl
      exact untouched.onlyTaken
  | listenStatus listener =>
      have untouched : AckUntouched bridge (bridge.listenStatus listener) :=
        .of_eq [] rfl rfl rfl rfl rfl
      exact untouched.onlyTaken
  | shutdown => exact absurd rfl goesOn

theorem onlyTaken_handle (named : bridge.locks.ack.id = .ack) {event : Event}
    (goesOn : event ≠ .shutdown) (now : Instant) : OnlyTaken bridge (bridge.handle now event) := by
  unfold handle
  split
  · exact .refl bridge
  · exact onlyTaken_react named goesOn now

theorem onlyTaken_handleEach (named : bridge.locks.ack.id = .ack) {events : List Event}
    (goesOn : .shutdown ∉ events) (now : Instant) :
    OnlyTaken bridge (bridge.handleEach now events) := by
  induction events generalizing bridge with
  | nil => exact .refl bridge
  | cons event rest ih =>
      have other : event ≠ .shutdown := fun same => goesOn (same ▸ List.mem_cons_self)
      have handled := onlyTaken_handle named other now
      have named := (WakeLocks.ids_of_make handled.make).2.trans named
      exact handled.trans (ih named (mt (List.mem_cons_of_mem event) goesOn))

/-! ## Timers -/

omit [Channel χ] in
theorem ackReplies_onTimer (locks : WakeLocks) (timer : LockTimer) (now : Instant) :
    ackReplies (locks.onTimer timer now).2.2 = [] := by
  have expired : ∀ lock : WakeLock, ackReplies (lock.expire timer.generation now).2.2 = [] :=
    fun lock => ackReplies_of_lock fun _ => WakeLock.lock_of_mem_expire
  unfold WakeLocks.onTimer
  split
  · have silent := expired locks.primary
    split
    · rename_i fired
      rw [fired] at silent
      rw [ackReplies_append, silent]
      rfl
    · rfl
  · have silent := expired locks.ack
    split
    · rename_i fired
      rwa [fired] at silent
    · rfl

/-- A timer of the primary lock does nothing about the ack lock. -/
theorem ackUntouched_onLockTimer (bridge : Bridge χ) {timer : LockTimer}
    (own : timer.lock = .primary) (now : Instant) :
    AckUntouched bridge (bridge.onLockTimer timer now) := by
  have silent := ackReplies_onTimer bridge.locks timer now
  have make := bridge.locks.make_onTimer now timer
  have ack := WakeLocks.ack_onTimer_of_primary own bridge.locks now
  rcases judged : bridge.locks.onTimer timer now with ⟨expiry, locks, effects⟩
  rw [judged] at silent make ack
  cases expiry with
  | timedOut outstanding =>
      rw [onLockTimer_of_timedOut judged]
      refine .trans ?_ (ackUntouched_withDetector _ _)
      exact ⟨make, ack, fun _ => rfl, fun _ => rfl, effects, history_of_journal rfl, silent⟩
  | released | stale =>
      rw [onLockTimer_of_not_timedOut judged (by simp)]
      exact ⟨make, ack, fun _ => rfl, fun _ => rfl, effects, history_of_journal rfl, silent⟩

theorem ackUntouched_firePrimaryTimer
    (own : ∀ timer, bridge.primaryTimer = some timer → timer.lock = .primary) (now : Instant) :
    AckUntouched bridge (bridge.firePrimaryTimer now) := by
  unfold firePrimaryTimer
  split
  · exact .refl bridge
  · rename_i timer live
    split
    · have disarmed : AckUntouched bridge { bridge with primaryTimer := none } :=
        .of_eq [] rfl rfl rfl rfl rfl
      exact disarmed.trans (ackUntouched_onLockTimer _ (own timer live) now)
    · exact .refl bridge

theorem ackUntouched_ageOut (bridge : Bridge χ) (now : Instant) :
    AckUntouched bridge (bridge.ageOut now) :=
  (ackUntouched_withPending bridge _).trans (ackUntouched_finishAll _ _ .timedOut now)

section

variable {ceiling hold : Span} {primaryDue ackDue : Instant → Prop}

omit [Channel χ] in
theorem Guarding.own_primary (guarding : Guarding ceiling hold bridge primaryDue ackDue)
    {timer : LockTimer} (live : bridge.primaryTimer = some timer) : timer.lock = .primary :=
  (guarding.primary.own timer live).1.trans guarding.primaryId

/-- Timers that fire before that of the ack lock is due leave the ack lock alone. -/
theorem ackUntouched_fireDueTimers (guarding : Guarding ceiling hold bridge primaryDue ackDue)
    (early : ∀ timer, bridge.ackTimer = some timer → now < timer.deadline) :
    AckUntouched bridge (bridge.fireDueTimers now) := by
  have fired := ackUntouched_firePrimaryTimer (fun _ live => guarding.own_primary live) now
  have waits : (bridge.firePrimaryTimer now).fireAckTimer now = bridge.firePrimaryTimer now := by
    unfold fireAckTimer
    split
    · rfl
    · rename_i timer live
      rw [ackTimer_firePrimaryTimer] at live
      exact if_neg (Nat.not_le_of_lt (early timer live))
  rw [fireDueTimers, waits]
  exact fired.trans (ackUntouched_ageOut _ now)

theorem onlyTaken_call {call : Call χ} (guarding : Guarding ceiling hold bridge primaryDue ackDue)
    (early : ∀ now timer, call.instant? = some now → bridge.ackTimer = some timer →
      now < timer.deadline)
    (goesOn : .shutdown ∉ call.events) : OnlyTaken bridge (bridge.call call) := by
  cases call with
  | batch events now =>
      have fired := (ackUntouched_fireDueTimers guarding fun timer => early now timer rfl).onlyTaken
      have named := (WakeLocks.ids_of_make fired.make).2.trans guarding.ackId
      have ordered : .shutdown ∉ Event.inPhaseOrder events :=
        mt (Event.inPhaseOrder_perm events).mem_iff.mp goesOn
      have handled := onlyTaken_handleEach named ordered now
      exact (fired.trans handled).trans (ackUntouched_emit _ rfl).onlyTaken
  | timers now =>
      exact (ackUntouched_fireDueTimers guarding fun timer => early now timer rfl).onlyTaken
  | event event now =>
      exact onlyTaken_handle guarding.ackId (fun same => goesOn (same ▸ List.mem_cons_self)) now
  | sampled => exact (ackUntouched_emit _ rfl).onlyTaken
  | serialTaken | channelChanged | indicationListenerLost | statusListenerLost =>
      exact ⟨rfl, [], (List.append_nil _).symm, (UInt32.add_zero _).symm⟩

/-! ## Holds -/

/-- The calls keep up a hold of the ack lock after some acknowledgements: each is made before the
hold after the last acknowledgement until then is over, and none shuts the bridge down. -/
def KeepsUp (hold : Span) : List Instant → Bridge χ → List (Call χ) → Prop
  | _, _, [] => True
  | acked, bridge, call :: rest =>
    (∀ now ∈ call.instant?, ∀ last ∈ acked.getLast?, now < last + hold) ∧
      .shutdown ∉ call.events ∧
      KeepsUp hold (acked ++ if .acknowledged true ∈ bridge.doneBy call then call.instant?.toList
        else []) (bridge.call call) rest

omit [Channel χ] in
/-- A hold in whose course the ack lock was only taken, and its counter had room, goes on. -/
theorem goesOn_of_onlyTaken {taken acked : Instant → Prop} {effects : List Effect}
    (guarding : Guarding ceiling hold before primaryDue ackDue)
    (kept : Guarding ceiling hold after taken acked)
    (held : before.locks.ack.isHeld = true)
    (grown : after.history = before.history ++ effects)
    (count : after.locks.ack.count =
      before.locks.ack.count + UInt32.ofNat (effects.count (.acknowledged true)))
    (room : framesHeld before.history + effects.count (.acknowledged true) < UInt32.size) :
    .lockGivenBack .ack ∉ effects ∧ after.locks.ack.isHeld = true ∧
      framesHeld after.history =
        framesHeld before.history + effects.count (.acknowledged true) := by
  have some : 0 < framesHeld before.history := guarding.frames ▸ WakeLock.isHeld_iff.mp held
  have counted : framesHeld after.history =
      framesHeld before.history + effects.count (.acknowledged true) := by
    rw [← kept.frames, count, UInt32.toNat_add, guarding.frames,
      UInt32.toNat_ofNat_of_lt' (by omega)]
    exact Nat.mod_eq_of_lt room
  refine ⟨not_givenBack_of_frames some ?_, ?_, counted⟩
  · rw [← counted, grown, framesHeld_append]
  · rw [WakeLock.isHeld_iff, kept.frames, counted]
    omega

/-- A hold that is kept up through calls is not interrupted. -/
theorem held_of_keepsUp {calls : List (Call χ)} {taken acked : List Instant} {done : List Effect}
    (sound : (bridge.run calls).collision = none) (account : Accounted bridge 0)
    (room : HasRoom bridge calls) (frames : FrameRoom (bridge.run calls).history)
    (guarding : Guarding ceiling hold bridge (DueAfter taken ceiling) (DueAfter acked hold))
    (held : bridge.locks.ack.isHeld = true) (keepsUp : KeepsUp hold acked bridge calls)
    (grown : (bridge.run calls).history = bridge.history ++ done)
    (few : framesHeld bridge.history + done.count (.acknowledged true) < UInt32.size) :
    .lockGivenBack .ack ∉ done ∧ (bridge.run calls).locks.ack.isHeld = true := by
  induction calls generalizing bridge taken acked done with
  | nil =>
      have none : done = [] := List.append_right_eq_self.mp grown.symm
      exact ⟨none ▸ List.not_mem_nil, held⟩
  | cons first rest ih =>
      obtain ⟨inTime, goesOn, onward⟩ := keepsUp
      have after : (bridge.call first).collision = none := collision_of_run sound
      have accounted := accounted_call after account room.1
      have ahead : (bridge.call first).history <+: (bridge.run (first :: rest)).history :=
        history_run sound accounted room.2
      have kept := guarding_call after account room.1 (frames.of_prefix ahead) guarding
      have early : ∀ now timer, first.instant? = some now → bridge.ackTimer = some timer →
          now < timer.deadline := by
        intro now timer made live
        obtain ⟨last, lastly, due⟩ := (guarding.ack.own timer live).2.2
        rw [due]
        exact inTime now made last lastly
      obtain ⟨-, effects, grownFirst, count⟩ := onlyTaken_call guarding early goesOn
      obtain ⟨later, grownLater⟩ := ahead
      have parts : done = effects ++ later := by
        rw [grown, grownFirst, List.append_assoc] at grownLater
        exact (List.append_cancel_left grownLater).symm
      rw [parts, List.count_append] at few
      obtain ⟨notGivenBack, heldOn, counted⟩ :=
        goesOn_of_onlyTaken guarding kept held grownFirst count (by omega)
      obtain ⟨notLater, heldLater⟩ := ih sound accounted room.2 frames kept heldOn onward
        grownLater.symm (by omega)
      rw [parts]
      exact ⟨fun member => (List.mem_append.mp member).elim notGivenBack notLater, heldLater⟩

omit [Channel χ] in
theorem notGivenBack_finish (named : bridge.locks.primary.id = .primary) (attempt : Attempt)
    (outcome : Outcome) (now : Instant) :
    ∃ effects, (bridge.finish attempt outcome now).history = bridge.history ++ effects ∧
      .lockGivenBack .ack ∉ effects := by
  have told : (bridge.finish attempt outcome now).history =
      (bridge.releaseIf attempt.holdsLock now).history ++
        [.measured (.completed attempt.kind outcome.outcomeClass),
          .measured (.latency attempt.kind (attempt.latency now)),
          .settled attempt.ticket outcome] := history_of_journal rfl
  cases owns : attempt.holdsLock with
  | false =>
      rw [owns] at told
      exact ⟨_, told, by simp⟩
  | true =>
      have about : ∀ effect ∈ (bridge.locks.release now).2,
          effect.lock? = some bridge.locks.primary.id := fun _ => WakeLocks.lock_of_mem_release
      have released : (bridge.releaseLock now).history =
          bridge.history ++ (bridge.locks.release now).2 := history_of_journal rfl
      rw [owns] at told
      refine ⟨_, told.trans (congrArg (· ++ _) released |>.trans (List.append_assoc ..)), ?_⟩
      simpa using not_mem_of_lock about (by simp [Effect.lock?, named])

omit [Channel χ] in
/-- The end of attempts does not give the ack lock back. -/
theorem notGivenBack_finishAll (named : bridge.locks.primary.id = .primary)
    (attempts : List Attempt) (failure : RequestKind → Failure) (now : Instant) :
    ∃ effects, (bridge.finishAll attempts failure now).history = bridge.history ++ effects ∧
      .lockGivenBack .ack ∉ effects := by
  induction attempts generalizing bridge with
  | nil => exact ⟨[], (List.append_nil _).symm, List.not_mem_nil⟩
  | cons attempt rest ih =>
      have make := (timely_finish bridge attempt (.failed (failure attempt.kind)) now).make
      obtain ⟨old, grown, spared⟩ :=
        notGivenBack_finish named attempt (.failed (failure attempt.kind)) now
      obtain ⟨new, grownAgain, sparedAgain⟩ := ih ((WakeLocks.ids_of_make make).1.trans named)
      refine ⟨old ++ new, ?_, fun member => (List.mem_append.mp member).elim spared sparedAgain⟩
      rw [← List.append_assoc, ← grown]
      exact grownAgain

omit [Channel χ] in
theorem notGivenBack_ageOut (named : bridge.locks.primary.id = .primary) (now : Instant) :
    ∃ effects, (bridge.ageOut now).history = bridge.history ++ effects ∧
      .lockGivenBack .ack ∉ effects := by
  have named : ({ bridge with pending := (bridge.pending.ageOut now bridge.maxAge).2 } :
      Bridge χ).locks.primary.id = .primary := named
  exact notGivenBack_finishAll named (bridge.pending.ageOut now bridge.maxAge).1 .timedOut now

/-- The timer of the primary lock does not give the ack lock back. -/
theorem notGivenBack_firePrimaryTimer (guarding : Guarding ceiling hold bridge primaryDue ackDue)
    (held : bridge.locks.ack.isHeld = true) (now : Instant) :
    ∃ effects, (bridge.firePrimaryTimer now).history = bridge.history ++ effects ∧
      .lockGivenBack .ack ∉ effects := by
  have untouched := ackUntouched_firePrimaryTimer (fun _ live => guarding.own_primary live) now
  have kept := guarding.firePrimaryTimer now
  obtain ⟨effects, grown, silent⟩ := untouched.history
  have none : effects.count (.acknowledged true) = 0 :=
    List.count_eq_zero.mpr (not_acknowledged_of_silent silent true)
  have some : 0 < framesHeld bridge.history := guarding.frames ▸ WakeLock.isHeld_iff.mp held
  refine ⟨effects, grown, not_givenBack_of_frames some ?_⟩
  rw [none, Nat.add_zero, ← framesHeld_append, ← grown, ← kept.frames, untouched.lock,
    guarding.frames]

omit [Channel χ] in
/-- The timer of the ack lock gives it back, once. -/
theorem givenBack_fireAckTimer (guarding : Guarding ceiling hold bridge primaryDue ackDue)
    {timer : LockTimer} (live : bridge.ackTimer = some timer) (expired : timer.deadline ≤ now) :
    (bridge.fireAckTimer now).locks.primary = bridge.locks.primary ∧
      (bridge.fireAckTimer now).locks.ack.isHeld = false ∧
      (bridge.fireAckTimer now).history.count (.lockGivenBack .ack) =
        bridge.history.count (.lockGivenBack .ack) + 1 := by
  have judged : ({ bridge with ackTimer := none } : Bridge χ).locks.onTimer timer now = _ :=
    guarding.judged_ack live now
  have once : (bridge.locks.ack.giveBack now).2.count (.lockGivenBack .ack) = 1 := by
    unfold WakeLock.giveBack
    rw [guarding.ackId]
    cases bridge.locks.ack.heldSince <;> simp
  have fired : bridge.fireAckTimer now =
      { bridge with
        ackTimer := none
        locks := { bridge.locks with ack := (bridge.locks.ack.giveBack now).1 } }.emit
        (bridge.locks.ack.giveBack now).2 := by
    simp only [fireAckTimer, live, if_pos expired]
    exact onLockTimer_of_not_timedOut judged (by simp)
  rw [fired]
  refine ⟨rfl, rfl, ?_⟩
  rw [history_emit, List.count_append, once]
  rfl

/-- When the hold is over, the timers give the ack lock back, once. -/
theorem givenBack_fireDueTimers (guarding : Guarding ceiling hold bridge primaryDue ackDue)
    (held : bridge.locks.ack.isHeld = true)
    (due : ∀ deadline, ackDue deadline → deadline ≤ now) :
    (bridge.fireDueTimers now).locks.ack.isHeld = false ∧
      (bridge.fireDueTimers now).history.count (.lockGivenBack .ack) =
        bridge.history.count (.lockGivenBack .ack) + 1 := by
  have untouched := ackUntouched_firePrimaryTimer (fun _ live => guarding.own_primary live) now
  have kept := guarding.firePrimaryTimer now
  have still : (bridge.firePrimaryTimer now).locks.ack.isHeld = true :=
    (congrArg WakeLock.isHeld untouched.lock).trans held
  obtain ⟨timer, live⟩ := Option.isSome_iff_exists.mp (kept.ack.live.trans still)
  have expired := due _ (kept.ack.own timer live).2.2
  obtain ⟨old, grown, spared⟩ := notGivenBack_firePrimaryTimer guarding held now
  obtain ⟨primary, free, once⟩ := givenBack_fireAckTimer kept live expired
  have named := (congrArg WakeLock.id primary).trans kept.primaryId
  obtain ⟨new, grownAgain, sparedAgain⟩ := notGivenBack_ageOut named now
  refine ⟨?_, ?_⟩
  · exact (congrArg WakeLock.isHeld (ackUntouched_ageOut _ now).lock).trans free
  · rw [fireDueTimers, grownAgain, List.count_append, List.count_eq_zero.mpr sparedAgain, once,
      grown, List.count_append, List.count_eq_zero.mpr spared]

end

/-! ## All counters -/

/-- In every run the counters of 32 bits count as numbers do, within these bounds.  Each attempt that
was handed over or waits is numbered within its ladder, and the next one has the next number.  A row
of designated errors is exact as long as it has less than 2^32.  If no serials collide and there is
room for the attempts that wait, then the references to the primary lock are as many as their owners,
and no call takes one without room for it.  And if no hold of the ack lock has 2^32 frames, its
counter tells the acknowledgements of the present hold.  From then on it is held through any number
of further ones, of which each comes before the hold after the one before is over: it is not given
back in between, and when the hold after the last one is over, the timers give it back once. -/
theorem counters_exact (config : BridgeConfig) (serials : SerialSource) (channel : χ)
    (calls : List (Call χ)) :
    let start := new config serials channel
    let bridge := start.run calls
    (∀ handed ∈ start.trace calls, handed.attempt.CountedWithin handed.request.kind) ∧
    (∀ attempt ∈ bridge.pending.attempts, attempt.CountedWithin attempt.kind) ∧
    (∀ kind, streakIn config.detector kind (start.signs calls) < UInt32.size →
      (bridge.detector.streaks.get kind).toNat =
        streakIn config.detector kind (start.signs calls)) ∧
    (bridge.collision = none → HasRoom start calls →
      bridge.locks.primary.count.toNat = bridge.pending.lockHolders ∧
      (∀ earlier call later now, calls = earlier ++ call :: later → call.instant? = some now →
        LockCourse now (start.run earlier) (start.run (earlier ++ [call]))) ∧
      (FrameRoom bridge.history →
        bridge.locks.ack.count.toNat = framesHeld bridge.history ∧
        ∀ earlier since done, calls = earlier ++ since →
          bridge.history = (start.run earlier).history ++ done →
          (start.run earlier).locks.ack.isHeld = true →
          KeepsUp config.ackWakeLockTimeout (instantsOf (.acknowledged true) start earlier)
            (start.run earlier) since →
          framesHeld (start.run earlier).history + done.count (.acknowledged true) <
            UInt32.size →
          .lockGivenBack .ack ∉ done ∧ bridge.locks.ack.isHeld = true ∧
          ∀ last now, (instantsOf (.acknowledged true) start calls).getLast? = some last →
            last + config.ackWakeLockTimeout ≤ now →
            (bridge.call (.timers now)).locks.ack.isHeld = false ∧
            (bridge.call (.timers now)).history.count (.lockGivenBack .ack) =
              bridge.history.count (.lockGivenBack .ack) + 1)) := by
  intro start bridge
  have begins : Orderly config.versionCap start ∧
      ∃ lines, Lined [] [] (start.lives .empty) lines :=
    ⟨orderly_new config serials channel, [], .nil⟩
  obtain ⟨-, lines, lined⟩ := (kept_lined start config.versionCap).run begins calls
  refine ⟨fun handed member => lined.counted_handed member, ?_, ?_, ?_⟩
  · intro attempt member
    have live : Live.made attempt.bare ∈ bridge.lives .empty :=
      List.mem_map_of_mem (List.mem_map_of_mem member)
    obtain ⟨positive, few, next⟩ := lined.counted_made live
    exact ⟨positive, few, next⟩
  · intro kind fits
    have told : bridge.detector =
        (start.signs calls).foldl FaultDetector.after (.new config.detector) :=
      (booked_run start calls).detector
    rw [told, FaultDetector.streak_of_history]
    exact UInt32.toNat_ofNat_of_lt' fits
  · intro sound room
    have account := accounted_new config serials channel
    refine ⟨(accounted_run sound account room).references, ?_, ?_⟩
    · rintro earlier call later now rfl made
      obtain ⟨early, here, -⟩ := room.split
      have sound : ((start.run earlier).call call).collision = none := by
        have whole : ((start.run earlier).run (call :: later)).collision = none := by
          rwa [← run_append]
        exact collision_of_run whole
      rw [run_append]
      exact lockCourse_call made sound
        (accounted_run (collision_of_call sound) account early) here
    · intro frames
      have begun : Guarding config.wakeLockTimeout config.ackWakeLockTimeout start
          (DueAfter [] config.wakeLockTimeout) (DueAfter [] config.ackWakeLockTimeout) :=
        guarding_new config serials channel _ _
      have guarding := guarding_run sound account room frames begun
      refine ⟨guarding.frames, ?_⟩
      rintro earlier since done rfl grown held keepsUp few
      obtain ⟨early, late⟩ := room.split
      have whole : bridge = (start.run earlier).run since := run_append start earlier since
      rw [whole] at sound frames grown
      have before := collision_of_run sound
      have accounted := accounted_run before account early
      have ahead := history_run sound accounted late
      have started := guarding_run before account early (frames.of_prefix ahead) begun
      obtain ⟨spared, heldOn⟩ :=
        held_of_keepsUp sound accounted late frames started held keepsUp grown few
      rw [← whole] at heldOn
      refine ⟨spared, heldOn, ?_⟩
      intro last now lastly past
      apply givenBack_fireDueTimers guarding heldOn
      rintro deadline ⟨other, alsoLast, rfl⟩
      cases lastly.symm.trans alsoLast
      exact past

/-- The ack lock is held through two more frames, the second 150 ms after the first, and given back
200 ms after that; meanwhile a request is at its second attempt. -/
theorem counters_exact_through_frames :
    let submission : Submission := ⟨⟨1⟩, .getSignalStrength, .empty, .unknown, 0, 7⟩
    let frame : Event := .indication ⟨1, .empty, .unsolicitedAckExpected⟩
    let refusal : Event := .answer
      ⟨⟨1⟩, .getSignalStrength, .requestNotSupported, .solicitedAckExpected⟩ .empty
    let start := new {} (.start 2) ({} : RecordingChannel)
    let earlier : List (Call RecordingChannel) := [.batch [.submit submission, frame] 0]
    let since : List (Call RecordingChannel) := [.batch [refusal] 100000, .batch [frame] 250000]
    let bridge := start.run (earlier ++ since)
    bridge.pending.attempts.map (·.number.toNat) = [2] ∧
      (∀ attempt ∈ bridge.pending.attempts, attempt.CountedWithin attempt.kind) ∧
      bridge.locks.primary.count.toNat = 1 ∧ bridge.locks.ack.count.toNat = 3 ∧
      bridge.history.count (.lockGivenBack .ack) = 0 ∧ bridge.locks.ack.isHeld = true ∧
      (bridge.call (.timers 450000)).locks.ack.isHeld = false ∧
      (bridge.call (.timers 450000)).history.count (.lockGivenBack .ack) = 1 := by
  intro submission frame refusal start earlier since bridge
  obtain ⟨-, numbered, -, counted⟩ :=
    counters_exact {} (.start 2) ({} : RecordingChannel) (earlier ++ since)
  obtain ⟨references, -, frames⟩ :=
    counted (by decide +kernel) ⟨by decide +kernel, by decide +kernel, by decide +kernel, trivial⟩
  obtain ⟨acknowledged, hold⟩ := frames (.of_length (by decide +kernel))
  obtain ⟨spared, held, past⟩ := hold earlier since
    (bridge.history.drop (start.run earlier).history.length) rfl (by decide +kernel)
    (by decide +kernel) ⟨by decide +kernel, by decide +kernel, by decide +kernel, by decide +kernel,
      trivial⟩ (by decide +kernel)
  have before : bridge.history.count (.lockGivenBack .ack) = 0 := by decide +kernel
  obtain ⟨free, once⟩ := past 250000 450000 (by decide +kernel) (by decide)
  exact ⟨by decide +kernel, numbered, references.trans (by decide +kernel),
    acknowledged.trans (by decide +kernel), before, held, free, once.trans (by rw [before])⟩

/-- Past their size the counters are not exact.  After 2^32 frames that ask for an acknowledgement,
all within the hold time of the one before, the ack lock shows as free though it was taken and not
given back, and when the hold after the last one is over it is not given back either.  And 2^32
designated errors in a row count as none. -/
theorem counters_back_to_zero :
    let bridge := flooded UInt32.size
    let errors := List.replicate UInt32.size (Sign.answered .sendSms .systemError 0)
    (framesHeld bridge.history = UInt32.size ∧ bridge.locks.ack.isHeld = false ∧
      .lockTaken .ack ∈ bridge.history ∧
      (bridge.call (.timers 200000)).history.count (.lockGivenBack .ack) = 0) ∧
    streakIn {} .sendSms errors = UInt32.size ∧
      (errors.foldl FaultDetector.after (.new {})).streaks.get .sendSms = 0 := by
  intro bridge errors
  constructor
  · have past : Flooded UInt32.size bridge := (flooded_run _).1
    have fired : (bridge.call (.timers 200000)).history = bridge.history := past.fired 200000
    refine ⟨past.held, WakeLock.isHeld_eq_false_iff.mpr past.count, past.taken (by decide), ?_⟩
    rw [fired, List.count_eq_zero]
    exact past.kept
  · have row : streakIn {} .sendSms errors = UInt32.size :=
      streakIn_replicate (by decide) (by decide) _
    refine ⟨row, ?_⟩
    rw [FaultDetector.streak_of_history, row]
    rfl

end Bridge

end ModemLink
