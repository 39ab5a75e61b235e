/-
Module: ModemLink.Proofs.FrameAcks
Purpose: Which frames of the modem are acknowledged, and what else does not touch the ack lock.
Main exports:
  ModemFrame, Heeds, ackReplies, AckUntouched, ackUntouched_issue, received_frame,
  frames_acknowledged, flagged_repeat_not_acknowledged
-/
import ModemLink.Proofs.HoldBounds

namespace ModemLink

/-!
An answer or an indication may ask for an acknowledgement.  A bridge sends it before it does
anything else about the frame, and whatever that is (to tell an outcome, to try again at a lower
version, to pass the frame on), it neither hands over a second acknowledgement nor touches the ack
lock and its timer.  An answer that nothing waits for is dropped before: it is not acknowledged,
even if it asks for it.
-/

/-! ## Frames and acknowledgements -/

/-- A frame of the modem that may ask for an acknowledgement. -/
inductive ModemFrame where
  | answer (header : AnswerHeader) (payload : Payload)
  | indication (message : Indication)

namespace ModemFrame

/-- The frame as an event. -/
def event : ModemFrame → Event
  | .answer header payload => .answer header payload
  | .indication message => .indication message

/-- Whether the frame asks for an acknowledgement. -/
def asksForAck : ModemFrame → Bool
  | .answer header _ => header.type.ackExpected
  | .indication message => message.type.ackExpected

end ModemFrame

namespace Effect

/-- What the channel said to an acknowledgement, if this effect hands one over. -/
def ackReply? : Effect → Option Bool
  | acknowledged accepted => some accepted
  | _ => none

theorem ackReply?_of_lock {effect : Effect} {lock : LockId} (about : effect.lock? = some lock) :
    effect.ackReply? = none := by
  cases effect with
  | acknowledged => simp [lock?] at about
  | lockTaken | lockGivenBack | handed | settled | indicated | statusTold | measured => rfl

end Effect

/-- What the channel said to the acknowledgements among some effects. -/
def ackReplies (effects : List Effect) : List Bool :=
  effects.filterMap Effect.ackReply?

theorem ackReplies_append (effects more : List Effect) :
    ackReplies (effects ++ more) = ackReplies effects ++ ackReplies more :=
  List.filterMap_append

theorem ackReplies_of_lock {effects : List Effect} {lock : LockId}
    (about : ∀ effect ∈ effects, effect.lock? = some lock) : ackReplies effects = [] :=
  List.filterMap_eq_nil_iff.mpr fun effect member => Effect.ackReply?_of_lock (about effect member)

/-- A view of a channel that requests do not change. -/
def Channel.AckView {χ α : Type} [Channel χ] (view : χ → α) : Prop :=
  ∀ channel request, view (Channel.send channel request).2 = view channel

namespace Bridge

variable {χ : Type}

/-- Whether a bridge does something about a frame: an answer has to be waited for. -/
def Heeds (bridge : Bridge χ) : ModemFrame → Prop
  | .answer header _ => (bridge.pending.find? header.serial).isSome
  | .indication _ => True

instance (bridge : Bridge χ) : (frame : ModemFrame) → Decidable (bridge.Heeds frame)
  | .answer header _ => inferInstanceAs (Decidable ((bridge.pending.find? header.serial).isSome))
  | .indication _ => inferInstanceAs (Decidable True)

section

variable [Channel χ]

/-! ## Steps that do not touch acknowledgements -/

/-- No acknowledgement is handed over, and the ack lock and its timer are the same.  As timers go by
the names of their locks, the latter presumes that the primary lock has its own. -/
structure AckUntouched (before after : Bridge χ) : Prop where
  make : after.locks.make = before.locks.make
  lock : after.locks.ack = before.locks.ack
  timer : before.locks.primary.id = .primary → after.ackTimer = before.ackTimer
  channel : ∀ {α : Type} {view : χ → α}, Channel.AckView view →
    view after.channel = view before.channel
  history : ∃ effects, after.history = before.history ++ effects ∧ ackReplies effects = []

namespace AckUntouched

variable {before after first middle last : Bridge χ}

/-- Only requests, versions, the detector and the totals differ. -/
theorem of_eq (effects : List Effect) (locks : after.locks = before.locks)
    (timer : after.ackTimer = before.ackTimer) (channel : after.channel = before.channel)
    (journal : after.journal = effects.reverse ++ before.journal)
    (silent : ackReplies effects = []) : AckUntouched before after where
  make := congrArg WakeLocks.make locks
  lock := congrArg WakeLocks.ack locks
  timer _ := timer
  channel _ := congrArg _ channel
  history := ⟨effects, history_of_journal journal, silent⟩

theorem refl (bridge : Bridge χ) : AckUntouched bridge bridge :=
  .of_eq [] rfl rfl rfl rfl rfl

theorem trans (earlier : AckUntouched first middle) (later : AckUntouched middle last) :
    AckUntouched first last := by
  obtain ⟨old, oldHistory, oldSilent⟩ := earlier.history
  obtain ⟨new, newHistory, newSilent⟩ := later.history
  refine ⟨later.make.trans earlier.make, later.lock.trans earlier.lock, ?_,
    fun view => (later.channel view).trans (earlier.channel view), old ++ new, ?_, ?_⟩
  · intro named
    have still := (WakeLocks.ids_of_make earlier.make).1.trans named
    exact (later.timer still).trans (earlier.timer named)
  · rw [newHistory, oldHistory, List.append_assoc]
  · rw [ackReplies_append, oldSilent, newSilent]
    rfl

end AckUntouched

theorem ackUntouched_emit (bridge : Bridge χ) {effects : List Effect}
    (silent : ackReplies effects = []) : AckUntouched bridge (bridge.emit effects) :=
  .of_eq effects rfl rfl rfl rfl silent

theorem ackUntouched_acquireLock (bridge : Bridge χ) (now : Instant) :
    AckUntouched bridge (bridge.acquireLock now) := by
  have silent : ackReplies (bridge.locks.primary.take now).2 = [] :=
    ackReplies_of_lock fun _ => WakeLock.lock_of_mem_take
  have grown := history_acquireLock bridge now
  have make := (timely_acquireLock bridge now).make
  by_cases free : bridge.locks.primary.count = 0
  · rw [acquireLock_of_free free] at grown make ⊢
    refine ⟨make, ?_, ?_, ?_, _, grown, silent⟩
    · unfold schedule
      split <;> rfl
    · intro named
      rw [schedule_primary _ ((WakeLock.id_take _ now).trans named)]
      rfl
    · intro α view _
      unfold schedule
      split <;> rfl
  · rw [acquireLock_of_held free] at grown make ⊢
    exact ⟨make, rfl, fun _ => rfl, fun _ => rfl, _, grown, silent⟩

theorem ackUntouched_releaseLock (bridge : Bridge χ) (now : Instant) :
    AckUntouched bridge (bridge.releaseLock now) := by
  have silent : ackReplies (bridge.locks.primary.drop now).2 = [] :=
    ackReplies_of_lock fun _ => WakeLock.lock_of_mem_drop
  exact ⟨(timely_releaseLock bridge now).make, rfl, fun _ => rfl, fun _ => rfl, _,
    history_of_journal rfl, silent⟩

theorem ackUntouched_releaseIf (bridge : Bridge χ) (held : Bool) (now : Instant) :
    AckUntouched bridge (bridge.releaseIf held now) := by
  cases held with
  | false => exact .refl bridge
  | true => exact ackUntouched_releaseLock bridge now

theorem ackUntouched_finish (bridge : Bridge χ) (attempt : Attempt) (outcome : Outcome)
    (now : Instant) : AckUntouched bridge (bridge.finish attempt outcome now) := by
  apply (ackUntouched_releaseIf bridge attempt.holdsLock now).trans
  exact .of_eq [.measured (.completed attempt.kind outcome.outcomeClass),
    .measured (.latency attempt.kind (attempt.latency now)), .settled attempt.ticket outcome]
    rfl rfl rfl rfl rfl

theorem ackUntouched_publishStatus (bridge : Bridge χ) (change : Option FaultStatus) :
    AckUntouched bridge (bridge.publishStatus change) := by
  cases change with
  | none => exact .refl bridge
  | some status =>
      apply ackUntouched_emit
      rw [ackReplies, List.filterMap_cons_none rfl, List.filterMap_map]
      exact List.filterMap_eq_nil_iff.mpr fun _ _ => rfl

theorem ackUntouched_withDetector (bridge : Bridge χ) (step : Option FaultStatus × FaultDetector) :
    AckUntouched bridge (bridge.withDetector step) := by
  refine .trans ?_ (ackUntouched_publishStatus _ step.1)
  exact .of_eq [] rfl rfl rfl rfl rfl

/-! ## Requests -/

/-- An attempt is handed to the channel, which is no acknowledgement. -/
theorem ackUntouched_handOver (bridge : Bridge χ) (attempt : Attempt) {reply : SendReply}
    {channel : χ} (replied : Channel.send bridge.channel attempt.outbound = (reply, channel))
    (now : Instant) : AckUntouched bridge (bridge.handOver attempt reply channel now) := by
  obtain ⟨make, lock, timer, view, effects, grown, silent⟩ := ackUntouched_acquireLock bridge now
  refine ⟨make, lock, timer, ?_, effects ++ [.handed attempt.outbound reply], ?_, ?_⟩
  · intro α view blind
    show view channel = view bridge.channel
    rw [← blind bridge.channel attempt.outbound, replied]
  · rw [← List.append_assoc, ← grown]
    exact history_of_journal rfl
  · rw [ackReplies_append, silent]
    rfl

theorem ackUntouched_lowered (bridge : Bridge χ) (kind : RequestKind) (failed : Version) :
    AckUntouched bridge (bridge.lowered kind failed) :=
  .of_eq [] rfl rfl rfl rfl rfl

theorem ackUntouched_retrying (bridge : Bridge χ) (kind : RequestKind) (failed version : Version) :
    AckUntouched bridge (bridge.retrying kind failed version) :=
  .of_eq [.measured (.fallback kind failed version)] rfl rfl rfl rfl rfl

theorem ackUntouched_of_dealt {bridge after : Bridge χ} {attempt : Attempt} {now : Instant}
    (spoken : bridge.versions.current attempt.kind = some attempt.version)
    (dealt : bridge.offer attempt now = (none, after)) : AckUntouched bridge after := by
  cases inserted : bridge.pending.insert? attempt.holding with
  | none =>
      rw [offer_of_not_inserted inserted] at dealt
      cases dealt
      apply (ackUntouched_acquireLock bridge now).trans
      exact .of_eq [] rfl rfl rfl rfl rfl
  | some pending =>
      cases replied : Channel.send bridge.channel attempt.outbound with
      | mk reply channel =>
          rw [offer_of_inserted spoken inserted replied] at dealt
          have handed := ackUntouched_handOver bridge attempt replied now
          cases reply with
          | accepted =>
              cases dealt
              apply handed.trans
              exact .of_eq [.measured (.submitted attempt.kind attempt.version)] rfl rfl rfl rfl rfl
          | unavailable reason =>
              cases dealt
              exact handed.trans (ackUntouched_finish _ attempt.holding _ now)
          | versionRefused => simp at dealt

theorem ackUntouched_issue (bridge : Bridge χ) (attempt : Attempt) (now : Instant)
    (spoken : bridge.versions.current attempt.kind = some attempt.version) :
    AckUntouched bridge (bridge.issue attempt now) := by
  fun_induction issue bridge attempt now with
  | case1 bridge attempt after dealt => exact ackUntouched_of_dealt spoken dealt
  | case2 bridge attempt refused version middle refusal after retreated =>
      obtain ⟨pending, channel, -, replied, rfl, rfl, rfl⟩ := offer_eq_some spoken refusal
      obtain ⟨-, rfl⟩ := retreat_eq_none retreated
      have handed := ackUntouched_handOver bridge attempt replied now
      exact (handed.trans (ackUntouched_lowered _ _ _)).trans (ackUntouched_finish _ _ _ now)
  | case3 bridge attempt refused version middle refusal next retried retreated ih =>
      obtain ⟨pending, channel, -, replied, rfl, rfl, rfl⟩ := offer_eq_some spoken refusal
      obtain ⟨lower, next_eq, rfl, rfl⟩ := retreat_eq_some retreated
      have handed := ackUntouched_handOver bridge attempt replied now
      have issued := ih (current_retrying next_eq)
      have retried := (handed.trans (ackUntouched_retrying _ _ _ lower)).trans issued
      exact retried.trans (ackUntouched_releaseIf _ _ now)

theorem ackUntouched_fallBack (bridge : Bridge χ) (attempt : Attempt) (failed : Version)
    (now : Instant) : AckUntouched bridge (bridge.fallBack attempt failed now) := by
  unfold fallBack
  cases retreated : bridge.retreat attempt failed now with
  | mk retry after =>
      cases retry with
      | none =>
          obtain ⟨-, rfl⟩ := retreat_eq_none retreated
          exact (ackUntouched_lowered bridge attempt.kind failed).trans
            (ackUntouched_finish _ attempt _ now)
      | some next =>
          obtain ⟨lower, next_eq, rfl, rfl⟩ := retreat_eq_some retreated
          have issued := ackUntouched_issue (bridge.retrying attempt.kind failed lower)
            (attempt.reissue bridge.serials.take.1 lower now) now (current_retrying next_eq)
          exact ((ackUntouched_retrying bridge attempt.kind failed lower).trans issued).trans
            (ackUntouched_releaseIf _ attempt.holdsLock now)

/-! ## Frames -/

/-- The bridge when it comes to the acknowledgement: only the table or the totals differ, and it has
handed nothing to the channel. -/
structure Received (before after : Bridge χ) : Prop where
  locks : after.locks = before.locks
  timer : after.ackTimer = before.ackTimer
  channel : after.channel = before.channel
  history : ∃ effects, after.history = before.history ++ effects ∧ ackReplies effects = []

theorem Received.untouched {before after : Bridge χ} (received : Received before after) :
    AckUntouched before after where
  make := congrArg WakeLocks.make received.locks
  lock := congrArg WakeLocks.ack received.locks
  timer _ := received.timer
  channel _ := congrArg _ received.channel
  history := received.history

/-- What becomes of a frame that is heeded: the acknowledgement comes first. -/
theorem received_frame {bridge : Bridge χ} {frame : ModemFrame} (heeds : bridge.Heeds frame)
    (now : Instant) :
    ∃ received, Received bridge received ∧
      AckUntouched (received.sendAckIf frame.asksForAck now) (bridge.react now frame.event) := by
  cases frame with
  | answer header payload =>
      obtain ⟨attempt, waiting⟩ := Option.isSome_iff_exists.mp heeds
      refine ⟨{ bridge with pending := bridge.pending.erase header.serial }, ?_, ?_⟩
      · exact ⟨rfl, rfl, rfl, [], history_of_journal rfl, rfl⟩
      · have answered : AckUntouched _ (bridge.answered attempt header now) :=
          ackUntouched_withDetector _ _
        show AckUntouched _ (bridge.onAnswer header payload now)
        rw [onAnswer_of_waiting waiting]
        split
        · exact answered.trans (ackUntouched_fallBack _ attempt _ now)
        · split <;> exact answered.trans (ackUntouched_finish _ attempt _ now)
  | indication message =>
      refine ⟨{ bridge with totals := { bridge.totals with
        indications := bridge.totals.indications + 1 } }.measure .indicationReceived, ?_, ?_⟩
      · exact ⟨rfl, rfl, rfl, _, history_of_journal rfl, rfl⟩
      · apply ackUntouched_emit
        rw [ackReplies, List.filterMap_map]
        exact List.filterMap_eq_nil_iff.mpr fun _ _ => rfl

/-- A frame that is not heeded is counted as a stale answer and nothing else. -/
theorem ackUntouched_of_not_heeded {bridge : Bridge χ} {frame : ModemFrame}
    (dropped : ¬ bridge.Heeds frame) (now : Instant) :
    AckUntouched bridge (bridge.react now frame.event) := by
  cases frame with
  | answer header payload =>
      have stale : bridge.pending.find? header.serial = none :=
        Option.not_isSome_iff_eq_none.mp dropped
      show AckUntouched _ (bridge.onAnswer header payload now)
      rw [onAnswer_of_stale stale]
      exact .of_eq [.measured .staleAnswer] rfl rfl rfl rfl rfl
  | indication message => exact absurd trivial dropped

/-- What an acknowledgement does: the channel is asked for it once, and if it takes it the ack lock
is taken once more and gets a new timer. -/
theorem sendAck_cases {bridge : Bridge χ} (named : bridge.locks.ack.id = .ack) (now : Instant) :
    ∃ effects, (bridge.sendAck now).history = bridge.history ++ effects ∧
      ackReplies effects = [(Channel.sendAck bridge.channel).1.isNone] ∧
      (bridge.sendAck now).channel = (Channel.sendAck bridge.channel).2 ∧
      ((Channel.sendAck bridge.channel).1.isNone = true →
        (bridge.sendAck now).locks.ack = ((bridge.locks.ack.take now).1.arm now).2 ∧
        (bridge.sendAck now).ackTimer = some ((bridge.locks.ack.take now).1.arm now).1) ∧
      ((Channel.sendAck bridge.channel).1.isNone = false →
        (bridge.sendAck now).locks.ack = bridge.locks.ack ∧
        (bridge.sendAck now).ackTimer = bridge.ackTimer) := by
  cases reply : Channel.sendAck bridge.channel with
  | mk refusal channel =>
      cases refusal with
      | some reason =>
          rw [sendAck_of_refused reply]
          exact ⟨[.acknowledged false], history_of_journal rfl, rfl, rfl, by simp, by simp [emit]⟩
      | none =>
          have own : (bridge.locks.holdForAck now).1.lock = .ack :=
            (WakeLock.id_take _ now).trans named
          have silent : ackReplies (bridge.locks.ack.take now).2 = [] :=
            ackReplies_of_lock fun _ => WakeLock.lock_of_mem_take
          rw [sendAck_of_accepted reply, schedule_ack _ own]
          refine ⟨_, history_of_journal rfl, ?_, rfl, fun _ => ⟨rfl, rfl⟩, by simp⟩
          exact congrArg (true :: ·) silent

/-- Where no acknowledgement is asked for, or nothing waits for the answer, none is handed over. -/
theorem ackUntouched_frame {bridge : Bridge χ} {frame : ModemFrame}
    (unasked : ¬ (frame.asksForAck = true ∧ bridge.Heeds frame)) (now : Instant) :
    AckUntouched bridge (bridge.react now frame.event) := by
  by_cases heeds : bridge.Heeds frame
  · obtain ⟨received, before, after⟩ := received_frame heeds now
    have asks : frame.asksForAck = false := Bool.eq_false_iff.mpr fun asks => unasked ⟨asks, heeds⟩
    rw [asks] at after
    exact before.untouched.trans after
  · exact ackUntouched_of_not_heeded heeds now

/-- In a run that goes well each frame that asks for an acknowledgement, and is an indication or an
answer that something waits for, gets exactly one, whatever else comes of it.  If the channel takes
it, the ack lock is held with a live timer that runs from then on, and otherwise nothing changes
about them.  A frame that does not ask, and an answer that nothing waits for, get none, and neither
the ack lock nor its timer changes. -/
theorem frames_acknowledged (config : BridgeConfig) (serials : SerialSource) (channel : χ)
    (calls : List (Call χ)) (frame : ModemFrame) (now : Instant)
    (sound : ((new config serials channel).run calls).collision = none) :
    let bridge := (new config serials channel).run calls
    let after := bridge.call (.event frame.event now)
    let replies := ackReplies (bridge.doneBy (.event frame.event now))
    let reply := Channel.sendAck bridge.channel
    (frame.asksForAck = true ∧ bridge.Heeds frame →
      replies = [reply.1.isNone] ∧
      (∀ {α : Type} {view : χ → α}, Channel.AckView view → view after.channel = view reply.2) ∧
      (reply.1.isNone = true →
        after.ackTimer =
          some ⟨.ack, after.locks.ack.generation, now + config.ackWakeLockTimeout⟩ ∧
        (bridge.locks.ack.count.toNat + 1 < UInt32.size → after.locks.ack.isHeld = true)) ∧
      (reply.1.isNone = false →
        after.locks.ack = bridge.locks.ack ∧ after.ackTimer = bridge.ackTimer)) ∧
    (¬ (frame.asksForAck = true ∧ bridge.Heeds frame) →
      replies = [] ∧
      (∀ {α : Type} {view : χ → α}, Channel.AckView view →
        view after.channel = view bridge.channel) ∧
      after.locks.ack = bridge.locks.ack ∧ after.ackTimer = bridge.ackTimer) := by
  intro bridge after replies reply
  have make : bridge.locks.make = (new config serials channel).locks.make := make_run _ calls
  obtain ⟨primaryId, ackId⟩ := WakeLocks.ids_of_make make
  have ceiling := (WakeLocks.ceilings_of_make make).2
  have handled : after = bridge.react now frame.event := handle_of_sound sound now frame.event
  constructor
  · rintro ⟨asks, heeds⟩
    obtain ⟨first, received, rest⟩ := received_frame heeds now
    have rest : AckUntouched (first.sendAck now) after := by
      rw [asks, ← handled] at rest
      exact rest
    have firstReply : Channel.sendAck first.channel = reply := congrArg _ received.channel
    have named : first.locks.ack.id = .ack := (congrArg (·.ack.id) received.locks).trans ackId
    obtain ⟨sent, grown, answered, handed, taken, refused⟩ := sendAck_cases named now
    rw [firstReply] at answered handed taken refused
    rw [received.locks] at taken refused
    have timer : after.ackTimer = (first.sendAck now).ackTimer := by
      apply rest.timer
      rw [(WakeLocks.ids_of_make (timely_sendAck first now).make).1, received.locks]
      exact primaryId
    refine ⟨?_, ?_, ?_, ?_⟩
    · obtain ⟨early, earlyGrown, earlySilent⟩ := received.history
      obtain ⟨late, lateGrown, lateSilent⟩ := rest.history
      rw [grown, earlyGrown, List.append_assoc, List.append_assoc] at lateGrown
      have all : bridge.doneBy (.event frame.event now) = early ++ (sent ++ late) :=
        doneBy_of_grown lateGrown
      show ackReplies (bridge.doneBy (.event frame.event now)) = _
      rw [all, ackReplies_append, ackReplies_append, earlySilent, answered, lateSilent]
      rfl
    · intro α view blind
      rw [rest.channel blind, handed]
    · intro accepted
      obtain ⟨lock, armed⟩ := taken accepted
      rw [timer, rest.lock, lock, armed]
      refine ⟨?_, fun room => WakeLock.isHeld_take now room⟩
      simp only [WakeLock.arm, WakeLock.id_take, WakeLock.ceiling_take, ackId, ceiling]
      rfl
    · intro accepted
      obtain ⟨lock, live⟩ := refused accepted
      rw [timer, rest.lock, lock, live]
      exact ⟨rfl, received.timer⟩
  · intro unasked
    have untouched : AckUntouched bridge after := handled ▸ ackUntouched_frame unasked now
    obtain ⟨effects, grown, silent⟩ := untouched.history
    exact ⟨(congrArg ackReplies (doneBy_of_grown grown)).trans silent, untouched.channel,
      untouched.lock, untouched.timer primaryId⟩

/-- How many acknowledgements a recording channel took does not depend on requests. -/
theorem ackView_acks : Channel.AckView RecordingChannel.acks := by
  intro channel request
  show (RecordingChannel.send channel request).2.acks = channel.acks
  unfold RecordingChannel.send
  split
  · rfl
  · split <;> rfl

/-- The modem does not know the version of a request, and asks for an acknowledgement of saying so.
It gets one, beside the retry at a lower version, and the ack lock is held for 200 ms. -/
theorem frames_acknowledged_beside_retry :
    let calls : List (Call RecordingChannel) :=
      [.batch [.submit ⟨⟨1⟩, .getSignalStrength, .empty, .unknown, 0, 7⟩] 0]
    let bridge := (new {} (.start 2) ({} : RecordingChannel)).run calls
    let frame : ModemFrame := .answer
      ⟨⟨1⟩, .getSignalStrength, .requestNotSupported, .solicitedAckExpected⟩ .empty
    let after := bridge.call (.event frame.event 1000)
    after.pending.size = 1 ∧ ackReplies (bridge.doneBy (.event frame.event 1000)) = [true] ∧
      after.channel.acks = 1 ∧ after.ackTimer = some ⟨.ack, 1, 201000⟩ ∧
      after.locks.ack.isHeld = true := by
  intro calls bridge frame after
  obtain ⟨replies, view, taken, -⟩ :=
    (frames_acknowledged {} (.start 2) ({} : RecordingChannel) calls frame 1000
      (by decide +kernel)).1 (by decide +kernel)
  obtain ⟨timer, held⟩ := taken (by decide +kernel)
  have generation : after.locks.ack.generation = 1 := by decide +kernel
  rw [generation] at timer
  exact ⟨by decide +kernel, replies.trans (by decide +kernel),
    (view ackView_acks).trans (by decide +kernel), timer, held (by decide +kernel)⟩

/-- An answer that comes a second time gets no acknowledgement, though it asks for one and the
channel would take it; the modem is left to repeat it. -/
theorem flagged_repeat_not_acknowledged :
    let calls : List (Call RecordingChannel) :=
      [.batch [.submit ⟨⟨1⟩, .sendSms, .empty, .unknown, 0, 0⟩] 0,
        .batch [.answer (.plain ⟨1⟩ .sendSms .success) .empty] 1000]
    let bridge := (new {} (.start 2) ({} : RecordingChannel)).run calls
    let frame : ModemFrame := .answer ⟨⟨1⟩, .sendSms, .success, .solicitedAckExpected⟩ .empty
    let after := bridge.call (.event frame.event 2000)
    bridge.collision = none ∧ frame.asksForAck = true ∧
      (Channel.sendAck bridge.channel).1 = none ∧
      ackReplies (bridge.doneBy (.event frame.event 2000)) = [] ∧ after.channel.acks = 0 ∧
      after.locks.ack.isHeld = false ∧ after.ackTimer = none := by
  decide +kernel

end

end Bridge

end ModemLink
