/-
Module: ModemLink.Proofs.Flood
Purpose: What becomes of the ack lock when a hold has more acknowledgements than its counter counts.
Main exports: askingFrame, Flooded, Flooded.frame, flooded, flooded_run, Flooded.fired, Flooded.shut
-/
import ModemLink.Proofs.Calm

namespace ModemLink.Bridge

/-!
While frames that ask for an acknowledgement keep coming, each adds a reference to the ack lock and
starts its timer anew, and nothing takes a reference away.  The counter has 32 bits.  So after 2^32
frames it is back at zero: the lock shows as free though it was never given back, its timer is stale
when it fires, and a shutdown finds nothing to give back.
-/

/-- Something that the modem says of itself, with an acknowledgement asked for. -/
def askingFrame : Indication :=
  ⟨1, .empty, .unsolicitedAckExpected⟩

/-- So many frames were acknowledged, nothing else happened, and the ack lock was not given back. -/
structure Flooded {χ : Type} (frames : Nat) (bridge : Bridge χ) : Prop where
  sound : bridge.collision = none
  running : bridge.running = true
  empty : bridge.pending = .empty
  primaryFree : bridge.locks.primary.count = 0
  primaryTimer : bridge.primaryTimer = none
  named : bridge.locks.ack.id = .ack
  ceiling : bridge.locks.ack.ceiling = 200000
  count : bridge.locks.ack.count = .ofNat frames
  ackTimer : bridge.ackTimer =
    if frames = 0 then none else some ⟨.ack, bridge.locks.ack.generation, 200000⟩
  taken : 0 < frames → .lockTaken .ack ∈ bridge.history
  kept : .lockGivenBack .ack ∉ bridge.history
  held : framesHeld bridge.history = frames

namespace Flooded

variable {χ : Type} [Channel χ] {frames : Nat} {bridge : Bridge χ}

omit [Channel χ] in
theorem early (flooded : Flooded frames bridge) : bridge.fireDueTimers 0 = bridge := by
  apply fireDueTimers_of_idle
  · simp [flooded.primaryTimer]
  · intro timer live
    rw [flooded.ackTimer] at live
    split at live
    · cases live
    · cases live
      exact (by decide : 0 < 200000)
  · simp [flooded.empty, PendingTable.empty]

/-- What a frame does when its acknowledgement goes through. -/
theorem onIndication_eq (flooded : Flooded frames bridge) {channel : χ}
    (reply : Channel.sendAck bridge.channel = (none, channel)) :
    bridge.onIndication askingFrame 0 =
      { bridge with
        totals := { bridge.totals with
          indications := bridge.totals.indications + 1
          acksSent := bridge.totals.acksSent + 1 }
        channel := channel
        locks := (bridge.locks.holdForAck 0).2.1
        ackTimer := some (bridge.locks.holdForAck 0).1
        journal := (bridge.indicationListeners.map fun listener =>
          .indicated listener askingFrame).reverse ++ ((ackEffects bridge.locks 0).reverse ++
            .measured .indicationReceived :: bridge.journal) } := by
  let received : Bridge χ := { bridge with
    totals := { bridge.totals with indications := bridge.totals.indications + 1 } }.measure
      .indicationReceived
  have accepted : Channel.sendAck received.channel = (none, channel) := reply
  have own : (received.locks.holdForAck 0).1.lock = .ack :=
    (WakeLock.id_take _ 0).trans flooded.named
  show (received.sendAck 0).emit ((received.sendAck 0).indicationListeners.map _) = _
  rw [sendAck_of_accepted accepted, schedule_ack _ own]
  rfl

theorem handleBatch_frame (flooded : Flooded frames bridge) :
    bridge.handleBatch [.indication askingFrame] 0 =
      (bridge.onIndication askingFrame 0).measure
        (.pendingCount (bridge.onIndication askingFrame 0).pending.size) := by
  have order : Event.inPhaseOrder [.indication askingFrame] = [.indication askingFrame] := rfl
  rw [handleBatch, flooded.early, order, List.foldl_cons, List.foldl_nil,
    handle_of_sound flooded.sound]
  rfl

theorem history_frame (flooded : Flooded frames bridge) {channel : χ}
    (reply : Channel.sendAck bridge.channel = (none, channel)) :
    (bridge.handleBatch [.indication askingFrame] 0).history =
      (bridge.history ++ [.measured .indicationReceived]) ++ ackEffects bridge.locks 0 ++
        ((bridge.indicationListeners.map fun listener => .indicated listener askingFrame) ++
          [.measured (.pendingCount 0)]) := by
  rw [flooded.handleBatch_frame, flooded.onIndication_eq reply]
  simp [history, measure, emit, flooded.empty, PendingTable.size, PendingTable.empty]

theorem framesHeld_frame (flooded : Flooded frames bridge) {channel : χ}
    (reply : Channel.sendAck bridge.channel = (none, channel)) :
    framesHeld (bridge.handleBatch [.indication askingFrame] 0).history = frames + 1 := by
  have unreceived (before : Nat) :
      [Effect.measured .indicationReceived].foldl Effect.framesAfter before = before :=
    foldl_framesAfter (by simp) (by simp) before
  have unsampled (before : Nat) :
      ((bridge.indicationListeners.map fun listener => Effect.indicated listener askingFrame) ++
        [Effect.measured (.pendingCount 0)]).foldl Effect.framesAfter before = before :=
    foldl_framesAfter (by simp) (by simp) before
  rw [flooded.history_frame reply, framesHeld_append, unsampled, framesHeld_ackEffects,
    framesHeld_append, unreceived, flooded.held]

/-- The first frame takes the lock. -/
theorem taken_frame (flooded : Flooded frames bridge) {channel : χ}
    (reply : Channel.sendAck bridge.channel = (none, channel)) :
    .lockTaken .ack ∈ (bridge.handleBatch [.indication askingFrame] 0).history := by
  rw [flooded.history_frame reply]
  simp only [List.mem_append]
  rcases Nat.eq_zero_or_pos frames with rfl | some
  · have free : bridge.locks.ack.count = 0 := flooded.count
    have first : .lockTaken .ack ∈ (bridge.locks.ack.take 0).2 := by
      rw [WakeLock.take, if_pos free, flooded.named]
      exact List.mem_cons_self
    exact .inl (.inr (List.mem_cons_of_mem _ (List.mem_cons_of_mem _ first)))
  · exact .inl (.inl (.inl (flooded.taken some)))

/-- One more frame is one more reference, whether there is room for it or not. -/
theorem frame (flooded : Flooded frames bridge) {channel : χ}
    (reply : Channel.sendAck bridge.channel = (none, channel)) :
    Flooded (frames + 1) (bridge.handleBatch [.indication askingFrame] 0) ∧
      (bridge.handleBatch [.indication askingFrame] 0).channel = channel := by
  have held := flooded.framesHeld_frame reply
  have taken := flooded.taken_frame reply
  have kept : .lockGivenBack .ack ∉ (bridge.handleBatch [.indication askingFrame] 0).history := by
    have spared := bridge.locks.ack.not_givenBack_take 0 .ack
    rw [flooded.history_frame reply]
    simpa [ackEffects, WakeLocks.holdForAck] using ⟨flooded.kept, spared⟩
  rw [flooded.handleBatch_frame, flooded.onIndication_eq reply] at held kept taken ⊢
  refine ⟨?_, rfl⟩
  exact {
    sound := flooded.sound
    running := flooded.running
    empty := flooded.empty
    primaryFree := flooded.primaryFree
    primaryTimer := flooded.primaryTimer
    named := (WakeLock.id_take _ 0).trans flooded.named
    ceiling := (WakeLock.ceiling_take _ 0).trans flooded.ceiling
    count := by
      rw [UInt32.ofNat_add, ← flooded.count]
      exact bridge.locks.ack.count_take_eq_add 0
    ackTimer := by
      have own : (bridge.locks.holdForAck 0).1 =
          ⟨.ack, (bridge.locks.holdForAck 0).2.1.ack.generation, 0 + 200000⟩ := by
        simp only [WakeLocks.holdForAck, WakeLock.arm, WakeLock.id_take, flooded.named,
          WakeLock.ceiling_take, flooded.ceiling]
      exact congrArg some own
    taken := fun _ => taken
    kept := kept
    held := held }

end Flooded

/-- A new bridge after so many frames that ask for an acknowledgement, each in a batch of its own
and all at the first instant. -/
def flooded (frames : Nat) : Bridge RecordingChannel :=
  (new {} (.start 1) {}).run (List.replicate frames (.batch [.indication askingFrame] 0))

theorem flooded_new {χ : Type} (serials : SerialSource) (channel : χ) :
    Flooded 0 (new {} serials channel) :=
  ⟨rfl, rfl, rfl, rfl, rfl, rfl, rfl, rfl, rfl, fun some => absurd some (Nat.lt_irrefl 0),
    List.not_mem_nil, rfl⟩

theorem flooded_run (frames : Nat) :
    Flooded frames (flooded frames) ∧ (flooded frames).channel.unavailable = none := by
  induction frames with
  | zero => exact ⟨flooded_new _ _, rfl⟩
  | succ frames ih =>
      obtain ⟨past, available⟩ := ih
      have reply : Channel.sendAck (flooded frames).channel =
          (none, { (flooded frames).channel with acks := (flooded frames).channel.acks + 1 }) := by
        show RecordingChannel.sendAck _ = _
        simp only [RecordingChannel.sendAck, available]
      obtain ⟨next, channel⟩ := past.frame reply
      have last : flooded (frames + 1) =
          (flooded frames).handleBatch [.indication askingFrame] 0 := by
        rw [flooded, List.replicate_succ', run_append]
        rfl
      rw [last, channel]
      exact ⟨next, available⟩

/-! ## At zero again -/

namespace Flooded

variable {χ : Type} {bridge : Bridge χ}

/-- Once the counter is back at zero, the timer of the ack lock is stale. -/
theorem judged (flooded : Flooded UInt32.size bridge) {timer : LockTimer} (own : timer.lock = .ack)
    (now : Instant) : bridge.locks.onTimer timer now = (.stale, bridge.locks, []) := by
  have zero : bridge.locks.ack.count = 0 := flooded.count
  have ignored : bridge.locks.ack.expire timer.generation now = (none, bridge.locks.ack, []) :=
    if_neg fun honoured => honoured.2 zero
  simp only [WakeLocks.onTimer, own, ignored]

/-- And it fires in vain. -/
theorem fired (flooded : Flooded UInt32.size bridge) (now : Instant) :
    (bridge.fireDueTimers now).history = bridge.history := by
  have primary : bridge.firePrimaryTimer now = bridge := by
    simp only [firePrimaryTimer, flooded.primaryTimer]
  have ack : (bridge.fireAckTimer now).history = bridge.history ∧
      (bridge.fireAckTimer now).pending = .empty := by
    unfold fireAckTimer
    split
    · exact ⟨rfl, flooded.empty⟩
    · rename_i timer live
      split
      · have own : timer.lock = .ack := by
          rw [flooded.ackTimer, if_neg (by decide)] at live
          cases live
          rfl
        have judged : ({ bridge with ackTimer := none } : Bridge _).locks.onTimer timer now =
            (.stale, bridge.locks, []) := flooded.judged own now
        rw [onLockTimer_of_not_timedOut judged (by simp)]
        exact ⟨rfl, flooded.empty⟩
      · exact ⟨rfl, flooded.empty⟩
  have nobody : (bridge.fireAckTimer now).pending.ageOut now (bridge.fireAckTimer now).maxAge =
      ([], .empty) := by
    rw [ack.2]
    exact PendingTable.ageOut_of_young (by simp [PendingTable.empty])
  rw [fireDueTimers, primary, ageOut, nobody]
  exact ack.1

/-- And a shutdown finds nothing to give back. -/
theorem shut [Channel χ] (flooded : Flooded UInt32.size bridge) :
    bridge.handleBatch [.shutdown] 0 = { bridge with
      pending := .empty
      primaryTimer := none
      ackTimer := none
      indicationListeners := []
      statusListeners := []
      running := false
      journal := .measured (.pendingCount 0) :: bridge.journal } := by
  have order : Event.inPhaseOrder [.shutdown] = [.shutdown] := rfl
  have nothing : bridge.locks.releaseAll 0 = (bridge.locks, []) := by
    have zero : bridge.locks.ack.count = 0 := flooded.count
    simp [WakeLocks.releaseAll, WakeLock.clear, flooded.primaryFree, zero]
  have nobody : bridge.pending.drain = ([], .empty) := by
    simp [flooded.empty, PendingTable.drain, PendingTable.empty, PendingTable.inOrder]
  have ended : bridge.react 0 .shutdown = { bridge with
      pending := .empty
      primaryTimer := none
      ackTimer := none
      indicationListeners := []
      statusListeners := []
      running := false } := by
    show bridge.shutdown 0 = _
    simp [shutdown, flooded.running, failAll, nobody, finishAll, nothing, emit]
  rw [handleBatch, flooded.early, order, List.foldl_cons, List.foldl_nil,
    handle_of_sound flooded.sound, ended]
  rfl

theorem history_shut [Channel χ] (flooded : Flooded UInt32.size bridge) :
    (bridge.handleBatch [.shutdown] 0).history =
      bridge.history ++ [.measured (.pendingCount 0)] := by
  rw [flooded.shut]
  exact history_of_journal rfl

end Flooded

end ModemLink.Bridge
