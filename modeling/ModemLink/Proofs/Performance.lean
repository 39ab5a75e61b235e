/-
Module: ModemLink.Proofs.Performance
Purpose: What can happen while a scenario is played, in whatever order its parties move.
Main exports:
  Bridge.amid, EventLoop.amid, Stir, Stirs, Looks, Submits, Acts, Plays, Performs, stirs_apply,
  acts_play, stops_rest, performs_of_rehearse
-/
import Mathlib.Logic.Relation
import ModemLink.Proofs.Delivery
import ModemLink.Rehearsal

namespace ModemLink

/-!
A rehearsal makes its moves in one order.  On stage the parties move in any: before, between and
after the actions of the script the loop takes batches, short or long, the modem sends what it
likes, and clock, line and chance change.  Nor does the rest of the stage stand still while the loop
handles a batch.  The line may go down and come back from one request to the next, so a batch is
handled over any channel, which answers as it likes; callers draw serials from the same source; and
who looks at the ledger may find only some of the outcomes of a batch in it.

`Stir` is one such thing that happens beside the script, and `Performs` a whole performance that
comes to a report.  A rehearsal that comes to a report is a performance.
-/

/-! ## Surroundings -/

section

variable {χ ψ : Type}

/-- The bridge with another channel, and with serials from where others have drawn some. -/
def Bridge.amid (bridge : Bridge χ) (channel : ψ) (serials : SerialSource) : Bridge ψ :=
  { bridge with
    channel := channel
    serials := serials }

/-- The loop with another channel, and with serials from where others have drawn some. -/
def EventLoop.amid (loop : EventLoop χ) (channel : ψ) (serials : SerialSource) : EventLoop ψ :=
  { loop with bridge := loop.bridge.amid channel serials }

end

namespace Rehearsal

/-- The loop takes a batch and finds `channel` instead of the line, which is as `line` after it. -/
def turnAmid {χ : Type} [Channel χ] (r : Rehearsal) (channel : χ) (count : Nat)
    (line : ModemLine) : Rehearsal :=
  if r.loop.isRunning then
    let loop := (r.loop.amid channel r.loop.bridge.serials).turn (fun _ => false) count r.now
    absorb { r with loop := loop.amid line loop.bridge.serials }
  else r

/-- The ledger while the loop handles a batch and told `seen` of its effects. -/
def ledgerAmid {χ : Type} [Channel χ] (r : Rehearsal) (channel : χ) (count seen : Nat) : Ledger :=
  let loop := (r.loop.amid channel r.loop.bridge.serials).turn (fun _ => false) count r.now
  (loop.bridge.history.take seen).foldl Ledger.note r.ledger

/-- The channel that a batch finds may be the line itself. -/
theorem turn_eq_turnAmid (r : Rehearsal) (count : Nat) :
    r.turn count = r.turnAmid r.loop.bridge.channel count
      (r.loop.turn (fun _ => false) count r.now).bridge.channel := rfl

end Rehearsal

/-! ## Beside the script -/

/-- One thing that happens beside the script. -/
inductive Stir : Rehearsal → Rehearsal → Prop where
  /-- The loop takes a batch. -/
  | turned {χ : Type} [Channel χ] (r : Rehearsal) (channel : χ) (count : Nat) (line : ModemLine) :
      Stir r (r.turnAmid channel count line)
  /-- Something comes in from the side of the modem. -/
  | sent {event : Event} (r : Rehearsal) (inbound : event.phase = .inbound) :
      Stir r (r.push [event])
  /-- Whatever the loop does not see. -/
  | elsewhere (r : Rehearsal) (line : ModemLine) (serials : SerialSource) (worker : ModemWorker)
      (random : Random) (now : Instant) :
      Stir r { r with
        loop := r.loop.amid line serials
        worker := worker
        random := random
        now := now }

/-- Things that happen beside the script, one after the other. -/
abbrev Stirs : Rehearsal → Rehearsal → Prop :=
  Relation.ReflTransGen Stir

/-- What may be found in the ledger, and what is on stage thereafter. -/
inductive Looks : Rehearsal → Ledger → Rehearsal → Prop where
  | between (r : Rehearsal) : Looks r r.ledger r
  | amid {χ : Type} [Channel χ] (r : Rehearsal) (channel : χ) (count seen : Nat)
      (line : ModemLine) :
      Looks r (r.ledgerAmid channel count seen) (r.turnAmid channel count line)

/-! ## The script -/

/-- Some requests of one kind are handed in. -/
inductive Submits (kind : RequestKind) (payload : Payload) : Nat → Rehearsal → Rehearsal → Prop
    where
  | none {r last : Rehearsal} (stirs : Stirs r last) : Submits kind payload 0 r last
  | more {count : Nat} {r before after last : Rehearsal} (stirs : Stirs r before)
      (handed : before.submit kind payload = .ok after)
      (rest : Submits kind payload count after last) :
      Submits kind payload (count + 1) r last

/-- One action of the script. -/
inductive Acts : Step → Rehearsal → Rehearsal → Prop where
  | submitted {kind : RequestKind} {count : UInt32} {payload : String} {r last : Rehearsal}
      (submits : Submits kind payload.toUTF8 count.toNat r last) :
      Acts (.submit kind count payload) r last
  | waited (ms : UInt64) (r : Rehearsal) : Acts (.wait ms) r r
  | settled (r : Rehearsal) : Acts .settle r r
  | indicated (code : UInt32) (ackExpected : Bool) (r : Rehearsal) :
      Acts (.indicate code ackExpected) r
        (r.onLine (·.push (.indicate ⟨code, ByteArray.empty, .ofAck ackExpected⟩)))
  /-- The modem is down before the bridge is told. -/
  | lost {r down last : Rehearsal}
      (stirs : Stirs (r.onLine fun line => { line with down := true }.push .crash) down)
      (told : down.tell .channelLost = .ok last) : Acts .channelLost r last
  | restarted {r up last : Rehearsal}
      (stirs : Stirs (r.onLine fun line => { line with down := false }) up)
      (told : up.tell .channelRestarted = .ok last) : Acts .channelRestart r last

/-- The actions of a script, in order, and what happens beside them. -/
inductive Plays : List Step → Rehearsal → Rehearsal → Prop where
  | done {r last : Rehearsal} (stirs : Stirs r last) : Plays [] r last
  | acted {step : Step} {rest : List Step} {r before after last : Rehearsal}
      (stirs : Stirs r before) (acts : Acts step before after)
      (plays : Plays rest after last) : Plays (step :: rest) r last

/-- A scenario is performed up to its report: its script is played, at `settling` one looks whether
all outcomes are in the ledger, the bridge is shut down, and the report is made when the loop has
stopped. -/
structure Performs (scenario : Scenario) (seed : UInt64) (firstSerial : UInt32)
    (startedAt : Timestamp) (settling : Rehearsal) (found : Ledger) (report : Report) : Prop where
  played : ∃ first, Rehearsal.start scenario seed firstSerial = .ok first ∧
    Plays scenario.steps first settling
  ended : ∃ after closing told last, Looks settling found after ∧
    Stirs after closing ∧ closing.tell .shutdown = .ok told ∧ Stirs told last ∧
    last.loop.status = .stopped ∧
    report = last.report scenario seed startedAt (found.outstanding = 0)

theorem Stir.onLine (r : Rehearsal) (change : ModemLine → ModemLine) : Stir r (r.onLine change) :=
  .elsewhere r (change r.loop.bridge.channel) r.loop.bridge.serials r.worker r.random r.now

theorem Looks.stirs {r after : Rehearsal} {found : Ledger} (looks : Looks r found after) :
    Stirs r after := by
  cases looks with
  | between => exact .refl
  | amid _ channel count _ line => exact .single (.turned r channel count line)

theorem Submits.after {kind : RequestKind} {payload : Payload} {count : Nat}
    {earlier r last : Rehearsal} (stirs : Stirs earlier r)
    (submits : Submits kind payload count r last) : Submits kind payload count earlier last := by
  cases submits with
  | none rest => exact .none (stirs.trans rest)
  | more rest handed later => exact .more (stirs.trans rest) handed later

theorem Plays.after {steps : List Step} {earlier r last : Rehearsal}
    (stirs : Stirs earlier r) (plays : Plays steps r last) : Plays steps earlier last := by
  cases plays with
  | done rest => exact .done (stirs.trans rest)
  | acted rest acts plays => exact .acted (stirs.trans rest) acts plays

theorem Plays.before {steps : List Step} {r last later : Rehearsal}
    (plays : Plays steps r last) (stirs : Stirs last later) : Plays steps r later := by
  induction plays with
  | done earlier => exact .done (earlier.trans stirs)
  | acted earlier acts _ ih => exact .acted earlier acts (ih stirs)

/-! ## Rehearsals are performances -/

theorem of_bind_ok {ε α β : Type} {first : Except ε α} {next : α → Except ε β} {result : β}
    (made : (first >>= next) = .ok result) :
    ∃ value, first = .ok value ∧ next value = .ok result := by
  cases first with
  | error error => cases made
  | ok value => exact ⟨value, rfl, made⟩

theorem eq_ok_of_isSome {ε α : Type} {made : Except ε α} (isSome : made.toOption.isSome = true)
    (other : α) : made = .ok (made.toOption.getD other) := by
  cases made with
  | error error => cases isSome
  | ok value => rfl

/-- A request makes the modem send an acknowledgement at most. -/
theorem ModemWorker.inbound_onRequest (worker : ModemWorker) (request : Outbound) (roll : Roll)
    (now : Instant) : ∀ event ∈ (worker.onRequest request roll now).1, event.phase = .inbound := by
  have sent : (worker.onRequest request roll now).1 =
      ((worker.count request.kind).acknowledge request.serial).1 := by
    cases acknowledged : (worker.count request.kind).acknowledge request.serial with
    | mk events counted =>
        simp only [onRequest, acknowledged]
        split <;> rfl
  rw [sent, acknowledge]
  split
  · simp [Event.phase]
  · simp

namespace Rehearsal

theorem stirs_push {events : List Event} (r : Rehearsal)
    (inbound : ∀ event ∈ events, event.phase = .inbound) : Stirs r (r.push events) := by
  induction events generalizing r with
  | nil => exact .refl
  | cons event rest ih =>
      obtain ⟨first, later⟩ := List.forall_mem_cons.mp inbound
      exact .head (.sent r first) (ih (r.push [event]) later)

theorem stirs_command (r : Rehearsal) : Stirs r r.command := by
  unfold command
  split
  · exact .refl
  · rename_i command rest pending
    have taken := fun worker random => Stir.elsewhere r
      { r.loop.bridge.channel with commands := rest } r.loop.bridge.serials worker random r.now
    cases command with
    | request request =>
        exact .head (taken _ _) (stirs_push _ (r.worker.inbound_onRequest request _ r.now))
    | indicate indication =>
        refine .head (taken _ _) (stirs_push _ ?_)
        intro event member
        rw [List.mem_singleton.mp member]
        rfl
    | crash => exact .single (taken _ _)

theorem stirs_deliver (r : Rehearsal) : Stirs r r.deliver := by
  refine .head (.elsewhere r r.loop.bridge.channel r.loop.bridge.serials
    (r.worker.deliverDue r.now).2 r.random r.now) (stirs_push _ ?_)
  intro event member
  obtain ⟨answer, -, rfl⟩ := List.mem_map.mp member
  rfl

theorem stir_turn (r : Rehearsal) (count : Nat) : Stir r (r.turn count) := by
  rw [turn_eq_turnAmid]
  exact .turned r r.loop.bridge.channel count _

/-- A move happens beside the script. -/
theorem stirs_apply (r : Rehearsal) (move : Move) : Stirs r (r.apply move) := by
  cases move with
  | turn count => exact .single (stir_turn r count)
  | command => exact stirs_command r
  | deliver => exact stirs_deliver r
  | tick span =>
      exact .single (.elsewhere r r.loop.bridge.channel r.loop.bridge.serials r.worker r.random _)

theorem stirs_rest (r : Rehearsal) (fuel : Nat) : Stirs r (r.rest fuel) := by
  induction fuel generalizing r with
  | zero => exact .refl
  | succ fuel ih =>
      rw [rest]
      split
      · exact (stirs_apply r _).trans (ih _)
      · exact .refl

theorem stirs_pass (r : Rehearsal) (limit : Instant) (reached : Rehearsal → Bool) (fuel : Nat) :
    Stirs r (r.pass limit reached fuel) := by
  induction fuel generalizing r with
  | zero => exact .refl
  | succ fuel ih =>
      rw [pass]
      repeat' split
      · exact .refl
      · exact (stirs_apply r _).trans (ih _)
      · exact (stirs_apply r _).trans (ih _)
      · exact stirs_apply r _
      · exact stirs_apply r _

theorem submits_submitMany {kind : RequestKind} {payload : Payload} {fuel count : Nat}
    {r last : Rehearsal} (made : r.submitMany kind payload fuel count = .ok last) :
    Submits kind payload count r last := by
  induction count generalizing r with
  | zero =>
      cases made
      exact .none .refl
  | succ count ih =>
      rw [submitMany] at made
      cases handed : r.submit kind payload with
      | error error => simp [handed] at made
      | ok after =>
          rw [handed] at made
          exact .more .refl handed (.after (stirs_rest after fuel) (ih made))

theorem tell_of_map {r last : Rehearsal} {event : Event} {fuel : Nat}
    (made : (r.tell event).map (·.rest fuel) = .ok last) :
    ∃ told, r.tell event = .ok told ∧ Stirs told last := by
  cases queued : r.tell event with
  | error error =>
      rw [queued] at made
      cases made
  | ok told =>
      rw [queued] at made
      cases made
      exact ⟨told, rfl, stirs_rest told fuel⟩

/-- Playing an action is that action, and then what happens beside the script. -/
theorem acts_play {r last : Rehearsal} {settleTimeout : Span} {fuel : Nat} {step : Step}
    (made : r.play settleTimeout fuel step = .ok last) :
    ∃ middle, Acts step r middle ∧ Stirs middle last := by
  cases step with
  | submit kind count payload => exact ⟨last, .submitted (submits_submitMany made), .refl⟩
  | wait ms =>
      cases made
      exact ⟨r, .waited ms r, stirs_pass r _ _ fuel⟩
  | settle =>
      cases made
      exact ⟨r, .settled r, stirs_pass r _ _ fuel⟩
  | indicate code ackExpected =>
      cases made
      exact ⟨_, .indicated code ackExpected r, stirs_rest _ fuel⟩
  | channelLost =>
      obtain ⟨told, queued, rests⟩ := tell_of_map made
      exact ⟨told, .lost .refl queued, rests⟩
  | channelRestart =>
      obtain ⟨told, queued, rests⟩ := tell_of_map made
      exact ⟨told, .restarted .refl queued, rests⟩

theorem plays_foldlM {steps : List Step} {r last : Rehearsal} {settleTimeout : Span} {fuel : Nat}
    (made : steps.foldlM (fun r step => r.play settleTimeout fuel step) r = .ok last) :
    Plays steps r last := by
  induction steps generalizing r with
  | nil =>
      cases made
      exact .done .refl
  | cons step rest ih =>
      rw [List.foldlM_cons] at made
      obtain ⟨next, played, made⟩ := of_bind_ok made
      obtain ⟨middle, acts, stirs⟩ := acts_play played
      exact .acted .refl acts (.after stirs (ih made))

/-! ## What the script queues -/

theorem push_of_running {r : Rehearsal} (runs : r.loop.status = .running) (event : Event) :
    r.push [event] = { r with loop := { r.loop with queue := r.loop.queue ++ [event] } } := by
  simp [push, EventLoop.push, EventLoop.isRunning, runs, Except.toOption]

theorem tell_of_running {r : Rehearsal} (runs : r.loop.status = .running) (event : Event) :
    r.tell event = .ok (r.push [event]) := by
  rw [push_of_running runs]
  simp [tell, EventLoop.push, EventLoop.isRunning, runs]

theorem tell_eq_ok {r told : Rehearsal} {event : Event} (made : r.tell event = .ok told) :
    r.loop.status = .running ∧ told = r.push [event] := by
  by_cases runs : r.loop.status = .running
  · rw [tell_of_running runs] at made
    exact ⟨runs, (Except.ok.inj made).symm⟩
  · simp [tell, EventLoop.push, EventLoop.isRunning, runs] at made

theorem push_of_ended {r : Rehearsal} (ended : r.loop.status ≠ .running) (events : List Event) :
    r.push events = r := by
  have kept : ∀ loop : EventLoop ModemLine, loop.status ≠ .running →
      events.foldl (fun loop event => (loop.push event).toOption.getD loop) loop = loop := by
    intro loop ended
    induction events with
    | nil => rfl
    | cons event rest ih =>
        have refused : loop.push event = .error .loopStopped := by
          simp [EventLoop.push, EventLoop.isRunning, ended]
        rw [List.foldl_cons, refused]
        exact ih
  unfold push
  rw [kept r.loop ended]

/-- A rehearsal before its first turn, when nobody listens yet. -/
def initial (scenario : Scenario) (seed : UInt64) (firstSerial : UInt32) : Rehearsal :=
  let bridge := Bridge.new scenario.bridge
    (.start (scenario.bridge.serialSeed.getD firstSerial)) (ModemLine.new scenario.bridge.name)
  ⟨⟨bridge, [], .running, bridge.diagnostics 0⟩, .new scenario.modem, .ofSeed seed, {},
    ⟨some scenario.name⟩, 0⟩

theorem start_eq_ok {scenario : Scenario} {seed : UInt64} {firstSerial : UInt32}
    {first : Rehearsal} :
    start scenario seed firstSerial = .ok first ↔ scenario.bridge.validate = .ok () ∧
      (initial scenario seed firstSerial).push [.listenStatus 0, .listenIndications 0] = first := by
  unfold start EventLoop.start
  cases valid : scenario.bridge.validate with
  | error fault => simp
  | ok =>
    simp only [true_and, Except.ok.injEq]
    rfl

/-! ## The end of a rehearsal -/

section

variable {r later : Rehearsal}

/-- A loop that no longer runs does not start again. -/
theorem status_stir (stir : Stir r later) (ended : r.loop.status ≠ .running) :
    later.loop.status = r.loop.status := by
  cases stir with
  | turned => simp [turnAmid, EventLoop.isRunning, ended]
  | sent => rw [push_of_ended ended]
  | elsewhere => rfl

theorem status_stirs (stirs : Stirs r later) (ended : r.loop.status ≠ .running) :
    later.loop.status = r.loop.status := by
  induction stirs with
  | refl => rfl
  | tail earlier stir ih => exact (status_stir stir (ih.symm ▸ ended)).trans ih

/-- A loop that runs has been running. -/
theorem running_of_stirs (stirs : Stirs r later) (runs : later.loop.status = .running) :
    r.loop.status = .running :=
  Decidable.byContradiction fun ended => ended ((status_stirs stirs ended).symm.trans runs)

end

/-- While the loop runs and has a shutdown in its queue, a turn brings it nearer to its end. -/
theorem drains_turn {r : Rehearsal} {count fuel : Nat} (some : 0 < count)
    (shuts : .shutdown ∈ r.loop.queue) (enough : r.loop.queue.length ≤ fuel + 1)
    (running : (r.turn count).loop.status = .running) :
    .shutdown ∈ (r.turn count).loop.queue ∧ (r.turn count).loop.queue.length ≤ fuel := by
  by_cases runs : r.loop.isRunning
  · have course : (r.turn count).loop.status = (r.loop.turn (fun _ => false) count r.now).status ∧
        (r.turn count).loop.queue = (r.loop.turn (fun _ => false) count r.now).queue := by
      simp [turn, runs, absorb]
    rw [course.1] at running
    rw [course.2]
    have sound : (r.loop.turn (fun _ => false) count r.now).status ≠ .crashed := by
      rw [running]
      simp
    obtain ⟨free, ends⟩ := EventLoop.turn_cases rfl sound
    rcases ends with ⟨goes, after⟩ | ⟨-, after⟩
    · have left : .shutdown ∉ r.loop.queue.take count :=
        ((Bridge.running_handleBatch free).mp goes).2
      rw [← List.take_append_drop count r.loop.queue, List.mem_append] at shuts
      rw [after]
      refine ⟨shuts.resolve_left left, ?_⟩
      show (r.loop.queue.drop count).length ≤ fuel
      rw [List.length_drop]
      omega
    · rw [after] at running
      simp at running
  · have ended : r.loop.status ≠ .running := by simpa [EventLoop.isRunning] using runs
    simp [turn, runs, ended] at running

/-- With a shutdown in the queue, and moves for all that is queued, the loop comes to its end. -/
theorem stops_rest {r : Rehearsal} {fuel : Nat}
    (drains : r.loop.status = .running →
      .shutdown ∈ r.loop.queue ∧ r.loop.queue.length ≤ fuel) :
    (r.rest fuel).loop.status ≠ .running := by
  induction fuel generalizing r with
  | zero =>
      intro running
      obtain ⟨shuts, none⟩ := drains running
      rw [List.length_eq_zero_iff.mp (Nat.le_zero.mp none)] at shuts
      exact absurd shuts List.not_mem_nil
  | succ fuel ih =>
      by_cases running : r.loop.status = .running
      · obtain ⟨shuts, enough⟩ := drains running
        have turns : r.nextMove? = some (.turn EventLoop.batchLimit) := by
          have queued : r.loop.queue ≠ [] := List.ne_nil_of_mem shuts
          simp [nextMove?, EventLoop.isRunning, running, queued]
        rw [rest, turns]
        exact ih (drains_turn (by decide) shuts enough)
      · rw [status_stirs (stirs_rest r _) running]
        exact running

theorem performs_finish {closing last : Rehearsal} {fuel : Nat}
    (made : closing.finish fuel = .ok last) :
    ∃ told, closing.tell .shutdown = .ok told ∧ Stirs told last ∧
      last.loop.status = .stopped := by
  unfold finish at made
  cases queued : closing.tell .shutdown with
  | error error => simp [queued] at made
  | ok told =>
      simp only [queued] at made
      split at made
      · cases made
      · rename_i sound
        cases made
        have shuts : .shutdown ∈ told.loop.queue := by
          obtain ⟨runs, rfl⟩ := tell_eq_ok queued
          simp [push_of_running runs]
        have ended : (told.rest (fuel + told.loop.queue.length)).loop.status ≠ .running :=
          stops_rest fun _ => ⟨shuts, Nat.le_add_left _ _⟩
        refine ⟨told, rfl, stirs_rest told _, ?_⟩
        cases status : (told.rest (fuel + told.loop.queue.length)).loop.status with
        | running => exact absurd status ended
        | stopped => rfl
        | crashed => exact absurd status sound

end Rehearsal

/-- A rehearsal that comes to a report is a performance. -/
theorem performs_of_rehearse {scenario : Scenario} {seed : Option UInt64} {firstSerial : UInt32}
    {startedAt : Timestamp} {report : Report}
    (made : scenario.rehearse seed firstSerial startedAt = .ok report) :
    ∃ settling, Performs scenario ((seed <|> scenario.seed).getD 0) firstSerial
      startedAt settling settling.ledger report := by
  unfold Scenario.rehearse at made
  obtain ⟨⟨⟩, -, made⟩ := of_bind_ok made
  obtain ⟨first, started, made⟩ := of_bind_ok made
  obtain ⟨played, plays, made⟩ := of_bind_ok made
  obtain ⟨settling, settled, made⟩ := of_bind_ok made
  obtain ⟨last, finished, made⟩ := of_bind_ok made
  obtain ⟨middle, acts, stirs⟩ := Rehearsal.acts_play settled
  obtain ⟨told, shut, rests, stopped⟩ := Rehearsal.performs_finish finished
  cases acts
  cases made
  have whole := ((Rehearsal.plays_foldlM plays).before stirs).after (Rehearsal.stirs_rest first _)
  exact ⟨settling, ⟨first, started, whole⟩,
    settling, settling, told, last, .between settling, .refl, shut, rests, stopped, rfl⟩

end ModemLink
