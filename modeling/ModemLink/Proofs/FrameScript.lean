/-
Module: ModemLink.Proofs.FrameScript
Purpose: The rehearsal of a script in which the modem sends frames and nothing else happens.
Main exports:
  LockUsages.ack_of_kept, Ledger.foldl_note_of_unasked, Rehearsal.turn_whole, Scenario.ofFrames,
  Rehearsal.Pouring, Pouring.indicate, Pouring.steps, Pouring.closing_turn, Pouring.finish,
  pouring_start, Scenario.rehearse_ofFrames
-/
import ModemLink.Proofs.Flood
import ModemLink.Proofs.LockUsage
import ModemLink.Proofs.Past
import ModemLink.Proofs.Performance

namespace ModemLink

/-!
A script of frames that ask for an acknowledgement is played move by move: for each frame the modem
takes a command, the loop takes a batch, and then there is nothing to be done.  All of it happens at
the first instant, so the frames of a script all fall in one hold of the ack lock.  When they are as
many as the lock counts no more, the shutdown gives nothing back.
-/

/-! ## A recording lock and a ledger -/

/-- A lock that was taken and not given back is held. -/
theorem LockUsage.held_afterAll {id : LockId} {effects : List Effect}
    (kept : .lockGivenBack id ∉ effects) {usage : LockUsage}
    (taken : usage.held = true ∨ .lockTaken id ∈ effects) :
    (usage.afterAll id effects).held = true := by
  induction effects generalizing usage with
  | nil => exact taken.resolve_right List.not_mem_nil
  | cons effect rest ih =>
      rw [List.mem_cons, not_or] at kept
      refine ih kept.2 ?_
      rw [List.mem_cons] at taken
      cases effect with
      | lockTaken lock | lockGivenBack lock =>
          by_cases same : id = lock <;> simp_all [after, @eq_comm _ lock]
      | handed | acknowledged | settled | indicated | statusTold | measured =>
          simpa [after] using taken

/-- Recording locks show an ack lock that was taken and never given back. -/
theorem LockUsages.ack_of_kept {effects : List Effect} (taken : .lockTaken .ack ∈ effects)
    (kept : .lockGivenBack .ack ∉ effects) :
    (afterAll {} effects).ack.held = true ∧ 0 < (afterAll {} effects).ack.acquisitions ∧
      (afterAll {} effects).ack.releases = 0 := by
  obtain ⟨acquisitions, releases⟩ := LockUsage.untouched.counts_afterAll .ack effects
  rw [afterAll_eq]
  refine ⟨LockUsage.held_afterAll kept (.inr taken), ?_, ?_⟩
  · show 0 < (LockUsage.untouched.afterAll .ack effects).acquisitions
    rw [acquisitions]
    exact Nat.add_pos_right _ (List.count_pos_iff.mpr taken)
  · show (LockUsage.untouched.afterAll .ack effects).releases = 0
    rw [releases, List.count_eq_zero.mpr kept]
    rfl

/-- As long as nobody asked for anything, a ledger only notes the locks. -/
theorem Ledger.foldl_note_of_unasked {ledger : Ledger} (unasked : ledger.kinds = #[])
    (effects : List Effect) :
    (effects.foldl note ledger).kinds = #[] ∧
      (effects.foldl note ledger).outstanding = ledger.outstanding ∧
      (effects.foldl note ledger).locks = ledger.locks.afterAll effects := by
  induction effects generalizing ledger with
  | nil => exact ⟨unasked, rfl, rfl⟩
  | cons effect rest ih =>
      have one : (ledger.note effect).kinds = #[] ∧
          (ledger.note effect).outstanding = ledger.outstanding ∧
          (ledger.note effect).locks = ledger.locks.after effect := by
        cases effect with
        | settled ticket outcome => simp [note, unasked]
        | lockTaken | lockGivenBack | handed | acknowledged | indicated | statusTold | measured =>
            exact ⟨unasked, rfl, rfl⟩
      obtain ⟨kinds, outstanding, locks⟩ := ih one.1
      rw [one.2.1] at outstanding
      rw [one.2.2] at locks
      exact ⟨kinds, outstanding, locks⟩

/-! ## Moves -/

namespace Rehearsal

theorem rest_of_move {r : Rehearsal} {move : Move} (next : r.nextMove? = some move) (fuel : Nat) :
    r.rest (fuel + 1) = (r.apply move).rest fuel := by
  rw [rest, next]

theorem rest_of_still {r : Rehearsal} (still : r.nextMove? = none) (fuel : Nat) :
    r.rest fuel = r := by
  cases fuel with
  | zero => rfl
  | succ fuel => rw [rest, still]

/-- A turn that takes the whole queue, of a loop whose bridge is `full` but for the journal. -/
theorem turn_whole (r : Rehearsal) (count : Nat) {full after : Bridge ModemLine}
    (runs : r.loop.status = .running) (past : r.loop.bridge = full.clearHistory)
    (whole : r.loop.queue.length ≤ count)
    (handled : full.handleBatch r.loop.queue r.now = after) (sound : after.collision = none) :
    ∃ done published, after.history = full.history ++ done ∧
      r.turn count = { r with
        loop := ⟨after.clearHistory, [], if after.running then .running else .stopped, published⟩
        ledger := done.foldl Ledger.note r.ledger } := by
  generalize batch : full.clearHistory.handleBatch r.loop.queue r.now = short
  have onto : short.onto ⟨full.journal, 0⟩ = after := by
    rw [← batch, ← handled]
    exact (Bridge.call_onto full.clearHistory ⟨full.journal, 0⟩ (.batch r.loop.queue r.now)).symm
  have taken : r.loop.bridge.handleBatch (r.loop.queue.take count) r.now = short := by
    rw [List.take_of_length_le whole, past, batch]
  have free : short.collision = none := by
    rw [← onto] at sound
    exact sound
  refine ⟨short.history, short.diagnostics r.now, ?_, ?_⟩
  · rw [← onto]
    exact Bridge.history_onto short ⟨full.journal, 0⟩
  · have running : r.loop.isRunning = true := by simp [EventLoop.isRunning, runs]
    rw [turn, if_pos running, EventLoop.turn_eq taken, if_neg (by simp [free]),
      List.drop_of_length_le whole, ← onto]
    show absorb _ = { r with
      loop := ⟨short.clearHistory, [], if short.running then .running else .stopped, _⟩
      ledger := _ }
    cases short.running with
    | true =>
        simp only [if_pos, absorb, runs]
    | false => rfl

end Rehearsal

/-! ## Frames and nothing else -/

/-- A script in which the modem sends so many frames that ask for an acknowledgement. -/
def Scenario.ofFrames (frames : Nat) : Scenario :=
  { name := "flood"
    steps := List.replicate frames (.indicate 1 true) }

namespace Rehearsal

/-- So many frames were played, all at the first instant, and nothing is left to be done then. -/
structure Pouring (frames : Nat) (r : Rehearsal) : Prop where
  running : r.loop.status = .running
  drained : r.loop.queue = []
  idle : r.loop.bridge.channel.commands = []
  up : r.loop.bridge.channel.down = false
  unanswered : r.worker.queue = []
  begun : r.now = 0
  unasked : r.ledger.kinds = #[]
  settled : r.ledger.outstanding = 0
  bridge : ∃ full : Bridge ModemLine, Bridge.Flooded frames full ∧
    r.loop.bridge = full.clearHistory ∧ r.ledger.locks = LockUsages.afterAll {} full.history

/-- The loop was told to shut down, and nothing else is queued. -/
def closing (r : Rehearsal) : Rehearsal :=
  { r with loop := { r.loop with queue := [.shutdown] } }

/-- The modem has sent a frame, which is queued alone. -/
def asked (r : Rehearsal) : Rehearsal :=
  { r with
    loop := { r.loop with queue := [.indication Bridge.askingFrame] }
    worker := (r.worker.onIndicate Bridge.askingFrame).2 }

namespace Pouring

variable {frames fuel : Nat} {r : Rehearsal}

theorem still (pouring : Pouring frames r) : r.nextMove? = none := by
  obtain ⟨full, flooded, past, -⟩ := pouring.bridge
  have deadline : r.loop.bridge.nextDeadline? = if frames = 0 then none else some 200000 := by
    rw [past]
    show full.nextDeadline? = _
    rw [Bridge.nextDeadline?, flooded.primaryTimer, flooded.ackTimer, flooded.empty]
    by_cases none : frames = 0 <;> simp [none] <;> rfl
  have asleep : r.wakeTime?.any (· ≤ r.now) = false := by
    rw [wakeTime?, deadline, pouring.begun]
    by_cases none : frames = 0 <;> simp [none, EventLoop.isRunning, pouring.running]
  simp [nextMove?, pouring.drained, commands, pouring.idle, answerTime?, pouring.unanswered, asleep]

/-- The modem takes the command to send a frame. -/
theorem command_told (pouring : Pouring frames r) :
    let told := r.onLine (·.push (.indicate Bridge.askingFrame))
    told.nextMove? = some .command ∧ told.command = r.asked := by
  intro told
  have drained : told.loop.queue = [] := pouring.drained
  have waiting : told.commands = [.indicate Bridge.askingFrame] := by
    show r.loop.bridge.channel.commands ++ _ = _
    rw [pouring.idle]
    rfl
  have line : (r.loop.bridge.onChannel (·.push (.indicate Bridge.askingFrame))).onChannel
      (fun line => { line with commands := [] }) = r.loop.bridge := by
    show { r.loop.bridge with channel := { r.loop.bridge.channel with commands := [] } } = _
    rw [← pouring.idle]
  refine ⟨by simp [nextMove?, drained, waiting], ?_⟩
  unfold command
  simp only [waiting]
  refine (push_of_running (by exact pouring.running) (.indication Bridge.askingFrame)).trans ?_
  show { r with
    loop := { r.loop with
      bridge := (r.loop.bridge.onChannel (·.push (.indicate Bridge.askingFrame))).onChannel
        fun line => { line with commands := [] }
      queue := r.loop.queue ++ [.indication Bridge.askingFrame] }
    worker := (r.worker.onIndicate Bridge.askingFrame).2 } = r.asked
  rw [line, pouring.drained]
  rfl

/-- A frame is played in two moves. -/
theorem indicate (pouring : Pouring frames r) (enough : 2 ≤ fuel) (settleTimeout : Span) :
    ∃ next, r.play settleTimeout fuel (.indicate 1 true) = .ok next ∧
      Pouring (frames + 1) next := by
  obtain ⟨fuel, rfl⟩ := Nat.exists_eq_add_of_le' enough
  obtain ⟨full, flooded, past, locks⟩ := pouring.bridge
  have line : r.loop.bridge.channel = full.channel := by
    rw [past]
    rfl
  have reply : Channel.sendAck full.channel =
      (none, { full.channel with acks := full.channel.acks + 1 }) := by
    have up : full.channel.down = false := line ▸ pouring.up
    show ModemLine.sendAck _ = _
    simp [ModemLine.sendAck, up]
  obtain ⟨more, channel⟩ := flooded.frame reply
  have handled : full.handleBatch r.asked.loop.queue r.asked.now =
      full.handleBatch [.indication Bridge.askingFrame] 0 :=
    congrArg (full.handleBatch _) pouring.begun
  obtain ⟨done, published, grown, turned⟩ := turn_whole r.asked EventLoop.batchLimit
    pouring.running past (by simp [asked, EventLoop.batchLimit]) handled more.sound
  rw [if_pos more.running] at turned
  obtain ⟨kinds, outstanding, noted⟩ := Ledger.foldl_note_of_unasked pouring.unasked done
  have next : Pouring (frames + 1) (r.asked.turn EventLoop.batchLimit) := by
    rw [turned]
    exact {
      running := rfl
      drained := rfl
      idle := (congrArg ModemLine.commands channel).trans (line ▸ pouring.idle)
      up := (congrArg ModemLine.down channel).trans (line ▸ pouring.up)
      unanswered := pouring.unanswered
      begun := pouring.begun
      unasked := kinds
      settled := outstanding.trans pouring.settled
      bridge := ⟨_, more, rfl, by
        rw [grown, LockUsages.afterAll, List.foldl_append]
        exact noted.trans (congrArg (LockUsages.afterAll · done) locks)⟩ }
  have second : r.asked.nextMove? = some (.turn EventLoop.batchLimit) := by
    simp [nextMove?, asked, EventLoop.isRunning, pouring.running]
  obtain ⟨first, commanded⟩ := pouring.command_told
  refine ⟨r.asked.turn EventLoop.batchLimit, congrArg Except.ok ?_, next⟩
  calc (r.onLine (·.push (.indicate Bridge.askingFrame))).rest (fuel + 2)
      = r.asked.rest (fuel + 1) := by rw [rest_of_move first, apply, commanded]
    _ = (r.asked.turn EventLoop.batchLimit).rest fuel := rest_of_move second fuel
    _ = r.asked.turn EventLoop.batchLimit := rest_of_still next.still fuel

theorem steps (pouring : Pouring frames r) (enough : 2 ≤ fuel) (settleTimeout : Span)
    (more : Nat) :
    ∃ last, (List.replicate more (Step.indicate 1 true)).foldlM
        (fun r step => r.play settleTimeout fuel step) r = .ok last ∧
      Pouring (frames + more) last := by
  induction more generalizing frames r with
  | zero => exact ⟨r, rfl, pouring⟩
  | succ more ih =>
      obtain ⟨next, played, onward⟩ := pouring.indicate enough settleTimeout
      obtain ⟨last, rest, ends⟩ := ih onward
      refine ⟨last, ?_, ?_⟩
      · rw [List.replicate_succ, List.foldlM_cons, played]
        exact rest
      · rwa [Nat.add_assoc, Nat.add_comm 1 more] at ends

/-- Nobody waits for anything. -/
theorem settle (pouring : Pouring frames r) (enough : 2 ≤ fuel) (settleTimeout : Span) :
    r.play settleTimeout fuel .settle = .ok r := by
  obtain ⟨fuel, rfl⟩ := Nat.exists_eq_add_of_le' enough
  have settled : r.isSettled = true := decide_eq_true pouring.settled
  refine congrArg Except.ok ?_
  rw [pass, if_pos settled]

/-- With a shutdown in the queue a rehearsal makes one more turn. -/
theorem rest_closing (pouring : Pouring frames r) (fuel : Nat)
    (still : (r.closing.turn EventLoop.batchLimit).nextMove? = none) :
    r.closing.rest (fuel + 1) = r.closing.turn EventLoop.batchLimit := by
  have move : r.closing.nextMove? = some (.turn EventLoop.batchLimit) := by
    simp [nextMove?, closing, EventLoop.isRunning, pouring.running]
  rw [rest_of_move move, apply, rest_of_still still]

/-- After as many frames as the counter of the lock counts no more, the turn with the shutdown gives
nothing back. -/
theorem closing_turn (pouring : Pouring UInt32.size r) :
    ∃ effects, .lockTaken .ack ∈ effects ∧ .lockGivenBack .ack ∉ effects ∧
      (r.closing.turn EventLoop.batchLimit).ledger.locks = LockUsages.afterAll {} effects ∧
      (r.closing.turn EventLoop.batchLimit).loop.status = .stopped ∧
      (r.closing.turn EventLoop.batchLimit).nextMove? = none := by
  obtain ⟨full, flooded, past, locks⟩ := pouring.bridge
  have handled : full.handleBatch r.closing.loop.queue r.closing.now =
      full.handleBatch [.shutdown] 0 :=
    congrArg (full.handleBatch _) pouring.begun
  have idle : (full.handleBatch [.shutdown] 0).channel.commands = [] := by
    have line : r.loop.bridge.channel = full.channel := by
      rw [past]
      rfl
    rw [flooded.shut]
    exact line ▸ pouring.idle
  have sound : (full.handleBatch [.shutdown] 0).collision = none := by
    rw [flooded.shut]
    exact flooded.sound
  have stops : (full.handleBatch [.shutdown] 0).running = false := by
    rw [flooded.shut]
  obtain ⟨done, published, grown, turned⟩ := turn_whole r.closing EventLoop.batchLimit
    pouring.running past (by simp [closing, EventLoop.batchLimit]) handled sound
  rw [if_neg (by simp [stops])] at turned
  obtain ⟨-, -, noted⟩ := Ledger.foldl_note_of_unasked pouring.unasked done
  rw [turned]
  refine ⟨full.history ++ [.measured (.pendingCount 0)], ?_, ?_, ?_, rfl, ?_⟩
  · exact List.mem_append_left _ (flooded.taken (by decide))
  · simpa using flooded.kept
  · rw [← flooded.history_shut, grown, LockUsages.afterAll, List.foldl_append]
    exact noted.trans (congrArg (LockUsages.afterAll · done) locks)
  · simp [nextMove?, EventLoop.isRunning, commands, Bridge.clearHistory, idle, answerTime?,
      wakeTime?, closing, pouring.unanswered]

/-- So it leaves the ack lock held. -/
theorem finish (pouring : Pouring UInt32.size r) (fuel : Nat) :
    ∃ last, r.finish fuel = .ok last ∧ last.ledger.locks.ack.held = true ∧
      0 < last.ledger.locks.ack.acquisitions ∧ last.ledger.locks.ack.releases = 0 := by
  obtain ⟨effects, taken, kept, locks, stopped, still⟩ := pouring.closing_turn
  have queued : r.tell .shutdown = .ok r.closing := by
    rw [tell_of_running pouring.running, push_of_running pouring.running, pouring.drained]
    rfl
  have rests : r.closing.rest (fuel + r.closing.loop.queue.length) =
      r.closing.turn EventLoop.batchLimit := pouring.rest_closing fuel still
  refine ⟨r.closing.turn EventLoop.batchLimit, ?_, ?_⟩
  · unfold Rehearsal.finish
    simp only [queued, rests, stopped]
    rfl
  · rw [locks]
    exact LockUsages.ack_of_kept taken kept

end Pouring

/-- The bridge of such a script when its two listeners are registered. -/
def attended : Bridge ModemLine :=
  { Bridge.new {} (.start 1) (ModemLine.new "radio0") with
    indicationListeners := [0]
    statusListeners := [0]
    journal := [.measured (.pendingCount 0)] }

theorem flooded_attended : Bridge.Flooded 0 attended :=
  { Bridge.flooded_new (.start 1) (ModemLine.new "radio0") with
    taken := fun some => absurd some (Nat.lt_irrefl 0)
    kept := by simp [attended, Bridge.history]
    held := rfl }

theorem handleBatch_listeners :
    (Bridge.new {} (.start 1) (ModemLine.new "radio0")).handleBatch
      [.listenStatus 0, .listenIndications 0] 0 = attended := by
  have order : Event.inPhaseOrder [.listenStatus 0, .listenIndications 0] =
      [.listenStatus 0, .listenIndications 0] := rfl
  rw [Bridge.handleBatch, (Bridge.flooded_new _ _).early, order]
  rfl

/-- The rehearsal of such a script when its loop was told of the two listeners. -/
def opened (frames : Nat) : Rehearsal :=
  (initial (.ofFrames frames) 0 1).push [.listenStatus 0, .listenIndications 0]

/-- Before its first frame. -/
theorem pouring_start (frames fuel : Nat) (enough : 1 ≤ fuel) :
    start (.ofFrames frames) 0 1 = .ok (opened frames) ∧
      Pouring 0 ((opened frames).rest fuel) := by
  obtain ⟨fuel, rfl⟩ := Nat.exists_eq_add_of_le' enough
  have valid : ({} : BridgeConfig).validate = .ok () := rfl
  refine ⟨start_eq_ok.mpr ⟨valid, rfl⟩, ?_⟩
  have first : (opened frames).nextMove? = some (.turn EventLoop.batchLimit) := rfl
  obtain ⟨done, published, grown, turned⟩ := turn_whole (opened frames) EventLoop.batchLimit
    rfl rfl (Nat.le_add_left 2 255) handleBatch_listeners rfl
  have unasked : (opened frames).ledger.kinds = #[] := rfl
  obtain ⟨kinds, outstanding, noted⟩ := Ledger.foldl_note_of_unasked unasked done
  have pouring : Pouring 0 ((opened frames).turn EventLoop.batchLimit) := by
    rw [turned]
    exact ⟨rfl, rfl, rfl, rfl, rfl, rfl, kinds, outstanding, attended, flooded_attended, rfl,
      grown ▸ noted⟩
  rw [rest_of_move first, apply, rest_of_still pouring.still]
  exact pouring

end Rehearsal

/-- A script of frames alone is played up to its shutdown without fail, and nobody waits then. -/
theorem Scenario.rehearse_ofFrames (frames : Nat) :
    ∃ settling, Rehearsal.Pouring frames settling ∧
      ∀ last, settling.finish (ofFrames frames).moveBound = .ok last →
        (ofFrames frames).rehearse none 1 ⟨0⟩ =
          .ok (last.report (ofFrames frames) 0 ⟨0⟩ true) := by
  have valid : (ofFrames frames).validate = .ok () := by
    have bridge : ({} : BridgeConfig).validate = .ok () := rfl
    have modem : ({} : ModemProfile).validate = .ok () := eq_ok_of_isSome (by decide +kernel) ()
    simp only [validate, ofFrames, bridge, modem]
  have enough : 2 ≤ (ofFrames frames).moveBound := by
    unfold moveBound
    omega
  obtain ⟨started, begun⟩ :=
    Rehearsal.pouring_start frames (ofFrames frames).moveBound (by omega)
  obtain ⟨settling, played, poured⟩ := begun.steps enough
    (Span.ofMillis (ofFrames frames).settleTimeoutMs.toNat) frames
  rw [Nat.zero_add] at poured
  refine ⟨settling, poured, ?_⟩
  intro last finished
  have settled : settling.isSettled = true := decide_eq_true poured.settled
  have ended := poured.settle enough (Span.ofMillis (ofFrames frames).settleTimeoutMs.toNat)
  have seedless : Rehearsal.start (ofFrames frames) ((none <|> (ofFrames frames).seed).getD 0) 1 =
      .ok (Rehearsal.opened frames) := started
  have script : (ofFrames frames).steps.foldlM (fun r step => r.play
      (Span.ofMillis (ofFrames frames).settleTimeoutMs.toNat) (ofFrames frames).moveBound step)
        ((Rehearsal.opened frames).rest (ofFrames frames).moveBound) = .ok settling := played
  simp only [rehearse, valid, seedless, script, ended, finished, settled, bind, Except.bind, pure,
    Except.pure]
  rfl

end ModemLink
