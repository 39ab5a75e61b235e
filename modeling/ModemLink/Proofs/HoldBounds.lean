/-
Module: ModemLink.Proofs.HoldBounds
Purpose: How long a hold of a wake lock can last, over every run.
Main exports:
  doneBy, instantsOf, DueAfter, guarding_call, history_run, guarding_run, timers_guard_holds,
  ack_timer_stale_past_room
-/
import ModemLink.Proofs.Flood

namespace ModemLink.Bridge

/-!
Two properties of a deadline are followed through a run: that it is as far after the last start of
its timer as the lock allows, and, inside a batch, that it is still to come.  The first is read off
the instants of those calls in which the timer was started, the second ends with the last batch.
-/

variable {χ : Type} [Channel χ]

/-- What a call does to the world around the bridge. -/
def doneBy (bridge : Bridge χ) (call : Call χ) : List Effect :=
  (bridge.call call).history.drop bridge.history.length

/-- The instants of those calls of a run in which an effect took place. -/
def instantsOf (effect : Effect) : Bridge χ → List (Call χ) → List Instant
  | _, [] => []
  | bridge, call :: rest =>
    (if effect ∈ bridge.doneBy call then call.instant?.toList else [])
      ++ instantsOf effect (bridge.call call) rest

/-- A deadline is a span after the last of some instants. -/
def DueAfter (instants : List Instant) (span : Span) (deadline : Instant) : Prop :=
  ∃ last, instants.getLast? = some last ∧ deadline = last + span

omit [Channel χ] in
theorem dueAfter_of_renewed {effects : List Effect} {mark : Effect} {now : Instant} {span : Span}
    {instants : List Instant} {deadline : Instant}
    (due : renewed effects mark (now + span) (DueAfter instants span) deadline) :
    DueAfter (instants ++ if mark ∈ effects then [now] else []) span deadline := by
  by_cases started : mark ∈ effects
  · rw [renewed_of_mem started] at due
    rw [if_pos started]
    exact ⟨now, List.getLast?_concat, due⟩
  · rw [renewed_of_not_mem started] at due
    rw [if_neg started, List.append_nil]
    exact due

theorem doneBy_of_grown {bridge : Bridge χ} {call : Call χ} {effects : List Effect}
    (grown : (bridge.call call).history = bridge.history ++ effects) :
    bridge.doneBy call = effects := by
  rw [doneBy, grown, List.drop_left]

theorem keeps_call {bridge : Bridge χ} {call : Call χ}
    (sound : (bridge.call call).collision = none) (account : Accounted bridge 0)
    (room : bridge.pending.size + call.submissions.length + RequestKind.maxRungs <
      UInt32.size) :
    Keeps (call.instant?.getD 0) bridge (bridge.call call) := by
  cases made : call.instant? with
  | none => exact (sameHolds_call made).keeps _
  | some now => exact (lockCourse_call made sound account room).keeps

/-- The deadlines after a call are counted from the last instants at which timers were started. -/
theorem guarding_call {ceiling hold : Span} {bridge : Bridge χ} {call : Call χ}
    {taken acked : List Instant} (sound : (bridge.call call).collision = none)
    (account : Accounted bridge 0)
    (room : bridge.pending.size + call.submissions.length + RequestKind.maxRungs <
      UInt32.size)
    (frames : FrameRoom (bridge.call call).history)
    (guarding : Guarding ceiling hold bridge (DueAfter taken ceiling) (DueAfter acked hold)) :
    Guarding ceiling hold (bridge.call call)
      (DueAfter (taken ++ if .lockTaken .primary ∈ bridge.doneBy call then call.instant?.toList
        else []) ceiling)
      (DueAfter (acked ++ if .acknowledged true ∈ bridge.doneBy call then call.instant?.toList
        else []) hold) := by
  cases made : call.instant? with
  | none =>
      simp only [Option.toList_none, ite_self, List.append_nil]
      exact (sameHolds_call made).guarding guarding
  | some now =>
      have keeps := (lockCourse_call made sound account room).keeps
      obtain ⟨effects, grown, kept⟩ := keeps.guards frames guarding
      rw [doneBy_of_grown grown]
      exact { kept with
        primary := kept.primary.mono fun _ => dueAfter_of_renewed
        ack := kept.ack.mono fun _ => dueAfter_of_renewed }

theorem history_run {calls : List (Call χ)} {bridge : Bridge χ}
    (sound : (bridge.run calls).collision = none) (account : Accounted bridge 0)
    (room : HasRoom bridge calls) : bridge.history <+: (bridge.run calls).history := by
  induction calls generalizing bridge with
  | nil => exact List.prefix_refl _
  | cons first rest ih =>
      have after : (bridge.call first).collision = none := collision_of_run sound
      have here := (keeps_call after account room.1).grows
      exact here.trans (ih sound (accounted_call after account room.1) room.2)

theorem guarding_run {ceiling hold : Span} {calls : List (Call χ)} {bridge : Bridge χ}
    {taken acked : List Instant} (sound : (bridge.run calls).collision = none)
    (account : Accounted bridge 0) (room : HasRoom bridge calls)
    (frames : FrameRoom (bridge.run calls).history)
    (guarding : Guarding ceiling hold bridge (DueAfter taken ceiling) (DueAfter acked hold)) :
    Guarding ceiling hold (bridge.run calls)
      (DueAfter (taken ++ instantsOf (.lockTaken .primary) bridge calls) ceiling)
      (DueAfter (acked ++ instantsOf (.acknowledged true) bridge calls) hold) := by
  induction calls generalizing bridge taken acked with
  | nil =>
      rw [instantsOf, instantsOf, List.append_nil, List.append_nil]
      exact guarding
  | cons first rest ih =>
      have after : (bridge.call first).collision = none := collision_of_run sound
      have accounted := accounted_call after account room.1
      have ahead : (bridge.call first).history <+: (bridge.run (first :: rest)).history :=
        history_run sound accounted room.2
      have kept := guarding_call after account room.1 (frames.of_prefix ahead) guarding
      rw [instantsOf, instantsOf, ← List.append_assoc, ← List.append_assoc]
      exact ih sound accounted room.2 frames kept

omit [Channel χ] in
theorem guarding_new (config : BridgeConfig) (serials : SerialSource) (channel : χ)
    (primaryDue ackDue : Instant → Prop) :
    Guarding config.wakeLockTimeout config.ackWakeLockTimeout (new config serials channel)
      primaryDue ackDue :=
  ⟨rfl, rfl, rfl, rfl, rfl, WakeLock.guarded_none rfl _, WakeLock.guarded_none rfl _⟩

theorem HasRoom.split {bridge : Bridge χ} {earlier later : List (Call χ)}
    (room : HasRoom bridge (earlier ++ later)) :
    HasRoom bridge earlier ∧ HasRoom (bridge.run earlier) later := by
  induction earlier generalizing bridge with
  | nil => exact ⟨trivial, room⟩
  | cons first rest ih =>
      obtain ⟨early, late⟩ := ih room.2
      exact ⟨⟨room.1, early⟩, late⟩

/-- Under settings that make sense, after any run without a collision of serials and with room in
the counters of references: each lock has a live timer exactly while it is held, of its latest
generation; the one of the primary lock is due a timeout after the instant at which the lock was
last taken, the one of the ack lock after the instant of the last acknowledgement.  So no timer that
fires is stale, neither the one of the primary lock nor the one of the ack lock after it.  And when
the last call was a batch, then a lock that is held has been held, since it was taken or since the
last acknowledgement, for less than its span. -/
theorem timers_guard_holds (config : BridgeConfig) (valid : config.validate = .ok ())
    (serials : SerialSource) (channel : χ) (calls : List (Call χ)) (bridge : Bridge χ)
    (reached : bridge = (new config serials channel).run calls)
    (sound : bridge.collision = none) (room : HasRoom (new config serials channel) calls)
    (frames : FrameRoom bridge.history) :
    bridge.locks.primary.Guarded bridge.primaryTimer
      (DueAfter (instantsOf (.lockTaken .primary) (new config serials channel) calls)
        config.wakeLockTimeout) ∧
    bridge.locks.ack.Guarded bridge.ackTimer
      (DueAfter (instantsOf (.acknowledged true) (new config serials channel) calls)
        config.ackWakeLockTimeout) ∧
    (∀ now timer, bridge.primaryTimer = some timer →
      (bridge.locks.onTimer timer now).1 = .timedOut bridge.locks.primary.count) ∧
    (∀ now timer, (bridge.firePrimaryTimer now).ackTimer = some timer →
      ((bridge.firePrimaryTimer now).locks.onTimer timer now).1 = .released) ∧
    ∀ earlier events now, calls = earlier ++ [.batch events now] →
      (bridge.locks.primary.isHeld = true →
        ∃ taken, (instantsOf (.lockTaken .primary) (new config serials channel) calls).getLast? =
          some taken ∧ now < taken + config.wakeLockTimeout) ∧
      (bridge.locks.ack.isHeld = true →
        ∃ acked, (instantsOf (.acknowledged true) (new config serials channel) calls).getLast? =
          some acked ∧ now < acked + config.ackWakeLockTimeout) := by
  subst reached
  have account := accounted_new config serials channel
  have start : Guarding config.wakeLockTimeout config.ackWakeLockTimeout
      (new config serials channel) (DueAfter [] config.wakeLockTimeout)
      (DueAfter [] config.ackWakeLockTimeout) := guarding_new config serials channel _ _
  have guarding := guarding_run sound account room frames start
  rw [List.nil_append, List.nil_append] at guarding
  refine ⟨guarding.primary, guarding.ack, ?_, ?_, ?_⟩
  · intro now timer live
    rw [guarding.judged_primary live now]
  · intro now timer live
    rw [(guarding.firePrimaryTimer now).judged_ack live now]
  · rintro earlier events now rfl
    -- The last batch is followed once more on its own: its deadlines are also still to come.
    obtain ⟨early, last⟩ := room.split
    obtain ⟨timeout, hold⟩ := spans_of_valid valid
    rw [run_append] at sound frames guarding ⊢
    have before := collision_of_run sound
    have accounted := accounted_run before account early
    have ahead := history_run sound accounted last
    have started := guarding_run before account early (frames.of_prefix ahead) start
    have later : Guarding config.wakeLockTimeout config.ackWakeLockTimeout
        (((new config serials channel).run earlier).handleBatch events now) (now < ·) (now < ·) :=
      started.handleBatch sound accounted last.1 frames timeout hold
    refine ⟨?_, ?_⟩
    · intro held
      obtain ⟨deadline, ⟨taken, lastTaken, rfl⟩, toCome⟩ :=
        guarding.primary.both later.primary held
      exact ⟨taken, lastTaken, toCome⟩
    · intro held
      obtain ⟨deadline, ⟨acked, lastAcked, rfl⟩, toCome⟩ := guarding.ack.both later.ack held
      exact ⟨acked, lastAcked, toCome⟩

/-- Both locks are held after a batch: the primary one since the first of two requests, the ack lock
since the second of two acknowledgements. -/
theorem timers_guard_holds_under_traffic :
    let calls : List (Call RecordingChannel) :=
      [.batch [.submit ⟨⟨1⟩, .sendSms, .empty, .unknown, 0, 0⟩,
          .indication ⟨1, .empty, .unsolicitedAckExpected⟩] 0,
        .batch [.indication ⟨1, .empty, .unsolicitedAckExpected⟩] 100000,
        .batch [.submit ⟨⟨2⟩, .sendSms, .empty, .unknown, 250000, 1⟩] 250000]
    let bridge := (new {} (.start 1) {}).run calls
    bridge.primaryTimer = some ⟨.primary, 1, 60000000⟩ ∧
      bridge.ackTimer = some ⟨.ack, 2, 300000⟩ ∧
      ∃ acked, (instantsOf (.acknowledged true) (new {} (.start 1) {}) calls).getLast? =
        some acked ∧ 250000 < acked + 200000 := by
  intro calls bridge
  have guards := timers_guard_holds {} rfl (.start 1) ({} : RecordingChannel) calls bridge rfl
    (by decide +kernel) ⟨by decide +kernel, by decide +kernel, by decide +kernel, trivial⟩
    (.of_length (by decide +kernel))
  have bounds := guards.2.2.2.2 [_, _] _ _ rfl
  exact ⟨by decide +kernel, by decide +kernel, bounds.2 (by decide +kernel)⟩

/-- Without room the timer of the ack lock guards nothing: after 2^32 acknowledgements in one hold,
under settings that make sense, it is live while the lock shows as free, and it is judged stale when
it fires. -/
theorem ack_timer_stale_past_room :
    let bridge := flooded UInt32.size
    let due := bridge.firePrimaryTimer 200000
    ({} : BridgeConfig).validate = .ok () ∧ bridge.collision = none ∧
      bridge.locks.ack.isHeld = false ∧ bridge.ackTimer.isSome = true ∧
      ∃ timer, due.ackTimer = some timer ∧ timer.deadline = 200000 ∧
        (due.locks.onTimer timer 200000).1 = .stale := by
  intro bridge due
  have past : Flooded UInt32.size bridge := (flooded_run _).1
  have same : due = bridge := by
    simp only [due, firePrimaryTimer, past.primaryTimer]
  have live : bridge.ackTimer = some ⟨.ack, bridge.locks.ack.generation, 200000⟩ :=
    past.ackTimer.trans (if_neg (by decide))
  refine ⟨rfl, past.sound, WakeLock.isHeld_eq_false_iff.mpr past.count, ?_, _,
    (congrArg Bridge.ackTimer same).trans live, rfl, ?_⟩
  · rw [live]
    rfl
  · rw [same, past.judged rfl]

end ModemLink.Bridge
