/-
Module: ModemLink.Proofs.Reckoning
Purpose: At the end of a scenario all its books balance.
Main exports:
  Step.requestCountFor, Scenario.requestCountFor, AskedFor, NoneBehind, RoomFor, Followed, Handled,
  Traceable, Underway, Report.Balances, balances_of_performs, report_balances
-/
import ModemLink.Proofs.Accounts
import ModemLink.Proofs.FrameScript
import ModemLink.Proofs.Standing

namespace ModemLink

/-!
The ledger of a scenario takes over what a bridge did after each batch, and the journal of the
bridge begins anew.  To speak of everything that happened, a performance is followed with a second
bridge, which is the first one with its whole journal.  A crash of the loop cannot be followed, and
is final: no report is made after it.
-/

/-! ## What a script hands in -/

/-- How many requests of a kind a step hands in. -/
def Step.requestCountFor (kind : RequestKind) : Step → Nat
  | .submit other count _ => if other = kind then count.toNat else 0
  | _ => 0

/-- How many requests of a kind a script hands in. -/
def Scenario.requestCountFor (scenario : Scenario) (kind : RequestKind) : Nat :=
  (scenario.steps.map (Step.requestCountFor kind)).sum

/-- What was handed in is what some steps ask for. -/
structure AskedFor (handed : List Submission) (steps : List Step) : Prop where
  total : handed.length = (steps.map Step.requestCount).sum
  each : ∀ kind, handed.countP (·.kind = kind) = (steps.map (Step.requestCountFor kind)).sum

namespace AskedFor

theorem of_kind {more : List Submission} {kind : RequestKind} {count : UInt32} {payload : String}
    (total : more.length = count.toNat) (kinds : ∀ submission ∈ more, submission.kind = kind) :
    AskedFor more [.submit kind count payload] where
  total := total
  each other := by
    show _ = (if kind = other then count.toNat else 0) + 0
    by_cases same : kind = other
    · rw [if_pos same, ← total, List.countP_eq_length.mpr]
      · rfl
      · intro submission member
        simp [kinds submission member, same]
    · rw [if_neg same, List.countP_eq_zero.mpr]
      intro submission member
      simp [kinds submission member, same]

theorem append {first more : List Submission} {step : Step} {rest : List Step}
    (asked : AskedFor first [step]) (others : AskedFor more rest) :
    AskedFor (first ++ more) (step :: rest) where
  total := by
    have total : first.length = step.requestCount + 0 := asked.total
    rw [List.length_append, total, others.total]
    rfl
  each kind := by
    have each : first.countP (·.kind = kind) = step.requestCountFor kind + 0 := asked.each kind
    rw [List.countP_append, each, others.each]
    rfl

end AskedFor

/-! ## The queue -/

namespace EventLoop

/-- No request is queued behind a shutdown. -/
def NoneBehind (queue : List Event) : Prop :=
  queue.Pairwise fun earlier later => earlier = .shutdown → submissions [later] = []

theorem submissions_eq_nil {events : List Event}
    (none : ∀ event ∈ events, submissions [event] = []) : submissions events = [] := by
  induction events with
  | nil => rfl
  | cons event rest ih =>
      obtain ⟨first, later⟩ := List.forall_mem_cons.mp none
      rw [submissions_cons, first, ih later]
      rfl

theorem NoneBehind.drop {queue : List Event} (behind : NoneBehind queue) (count : Nat) :
    NoneBehind (queue.drop count) :=
  List.Pairwise.sublist (List.drop_sublist count queue) behind

/-- What is left behind a batch with a shutdown are no requests. -/
theorem NoneBehind.left {queue : List Event} (behind : NoneBehind queue) {count : Nat}
    (shuts : .shutdown ∈ queue.take count) : submissions (queue.drop count) = [] := by
  have parts : NoneBehind (queue.take count ++ queue.drop count) := by
    rw [List.take_append_drop]
    exact behind
  obtain ⟨-, -, apart⟩ := List.pairwise_append.mp parts
  exact submissions_eq_nil fun event member => apart _ shuts event member rfl

theorem NoneBehind.concat {queue : List Event} (behind : NoneBehind queue) {event : Event}
    (allowed : .shutdown ∉ queue ∨ submissions [event] = []) : NoneBehind (queue ++ [event]) := by
  refine List.pairwise_append.mpr ⟨behind, List.pairwise_singleton _ _, ?_⟩
  rintro earlier member later last rfl
  rw [List.mem_singleton.mp last]
  exact allowed.resolve_left fun none => none member

end EventLoop

open EventLoop (submissions NoneBehind)

/-- The counter of the primary lock, which has 32 bits, has room for so many requests at a time, and
for one more ladder. -/
def RoomFor (requests : Nat) : Prop :=
  requests + RequestKind.maxRungs < UInt32.size

namespace Rehearsal

variable {config : BridgeConfig} {r : Rehearsal} {handed taken : List Submission}
  {full : Bridge ModemLine}

/-! ## Following a performance -/

/-- The bridge of a scenario is `full` but for the journal, and took `taken` of the requests that
were handed in; the others are queued.  When the loop has stopped, nothing is. -/
structure Followed (config : BridgeConfig) (r : Rehearsal) (handed taken : List Submission)
    (full : Bridge ModemLine) : Prop where
  bridge : r.loop.bridge = full.clearHistory
  standing : Bridge.Standing config (RoomFor handed.length) full taken
  requests : handed = taken ++ submissions r.loop.queue
  tickets : handed.map (·.ticket) = List.range handed.length
  ledger : r.ledger.Reflects handed full.history
  running : r.loop.status = .running → full.running = true
  behind : NoneBehind r.loop.queue
  stopped : r.loop.status = .stopped →
    r.loop.queue = [] ∧ Bridge.Ended full ∧ ∃ now, r.loop.published = full.diagnostics now

/-- Only requests that were handed in are told, and each once at most. -/
theorem known_of_standing {room : Prop} (standing : Bridge.Standing config room full taken)
    {queued : List Submission}
    (tickets : (taken ++ queued).map (·.ticket) = List.range (taken ++ queued).length) :
    (∀ told ∈ full.outcomes, told.1 < (taken ++ queued).length) ∧
      full.outcomes.length ≤ (taken ++ queued).length := by
  constructor
  · intro told member
    have among : told.1 ∈ taken.map (·.ticket) :=
      (Bridge.tickets_of_tally standing.tally).mem_iff.mp
        (List.mem_append_left _ (List.mem_map_of_mem member))
    rw [← List.mem_range, ← tickets, List.map_append]
    exact List.mem_append_left _ among
  · have told := Bridge.length_of_tally standing.tally
    rw [List.length_append]
    omega

section

variable {χ : Type} [Channel χ]

theorem turnAmid_of_running (runs : r.loop.status = .running) (channel : χ) (count : Nat)
    (line : ModemLine) :
    r.turnAmid channel count line =
      absorb { r with
        loop := ((r.loop.amid channel r.loop.bridge.serials).turn (fun _ => false) count
          r.now).amid line ((r.loop.amid channel r.loop.bridge.serials).turn (fun _ => false)
            count r.now).bridge.serials } := by
  simp [turnAmid, EventLoop.isRunning, runs]

theorem turnAmid_of_ended (ended : r.loop.status ≠ .running) (channel : χ) (count : Nat)
    (line : ModemLine) : r.turnAmid channel count line = r := by
  simp [turnAmid, EventLoop.isRunning, ended]

/-- A batch of a loop whose journal began anew, in the whole journal. -/
theorem standing_batch {room : Prop} (standing : Bridge.Standing config room full taken)
    (channel : χ) (line : ModemLine) {events : List Event} {now : Instant} {handled : Bridge χ}
    (batch : (full.clearHistory.amid channel full.serials).handleBatch events now = handled)
    (free : handled.collision = none)
    (fits : room →
      full.pending.size + (submissions events).length + RequestKind.maxRungs < UInt32.size) :
    Bridge.Standing config room ((handled.onto ⟨full.journal, 0⟩).amid line handled.serials)
      (taken ++ submissions events) := by
  have called : (full.amid channel full.serials).call (.batch events now) =
      handled.onto ⟨full.journal, 0⟩ := by
    rw [← batch]
    exact Bridge.call_onto (full.clearHistory.amid channel full.serials) ⟨full.journal, 0⟩
      (.batch events now)
  have sound : ((full.amid channel full.serials).call (.batch events now)).collision = none := by
    rw [called]
    exact free
  have kept := (standing.amid channel full.serials).call sound fits
  rw [called] at kept
  exact kept.amid line handled.serials

/-- A loop that was followed, after a further batch: its journal holds this batch alone. -/
structure Handled (config : BridgeConfig) (loop : EventLoop χ) (line : ModemLine)
    (full : Bridge ModemLine) (handed taken : List Submission) : Prop where
  standing : Bridge.Standing config (RoomFor handed.length)
    ((loop.bridge.onto ⟨full.journal, 0⟩).amid line loop.bridge.serials) taken
  requests : handed = taken ++ submissions loop.queue
  running : loop.status = .running → loop.bridge.running = true
  behind : NoneBehind loop.queue
  stopped : loop.status = .stopped → loop.queue = [] ∧ Bridge.Ended loop.bridge ∧
    ∃ now, loop.published = loop.bridge.diagnostics now

/-- The requests that wait in the table or in the queue were handed in. -/
theorem Followed.outstanding (followed : Followed config r handed taken full) :
    full.pending.size + (submissions r.loop.queue).length ≤ handed.length := by
  have told := Bridge.length_of_tally followed.standing.tally
  have parts := congrArg List.length followed.requests
  rw [List.length_append] at parts
  omega

theorem handled_turn (followed : Followed config r handed taken full)
    (runs : r.loop.status = .running) (channel : χ) (count : Nat) (line : ModemLine)
    (sound : ((r.loop.amid channel r.loop.bridge.serials).turn (fun _ => false) count
      r.now).status ≠ .crashed) :
    Handled config
      ((r.loop.amid channel r.loop.bridge.serials).turn (fun _ => false) count r.now) line full
      handed (taken ++ submissions (r.loop.queue.take count)) := by
  have batch : (r.loop.amid channel r.loop.bridge.serials).bridge.handleBatch
      (r.loop.queue.take count) r.now =
      (full.clearHistory.amid channel full.serials).handleBatch (r.loop.queue.take count)
        r.now := by
    show (r.loop.bridge.amid channel r.loop.bridge.serials).handleBatch _ _ = _
    rw [followed.bridge]
    rfl
  generalize handling : (full.clearHistory.amid channel full.serials).handleBatch
    (r.loop.queue.take count) r.now = handled at batch
  obtain ⟨free, ends⟩ := EventLoop.turn_cases batch sound
  have parts : submissions r.loop.queue =
      submissions (r.loop.queue.take count) ++ submissions (r.loop.queue.drop count) := by
    rw [← EventLoop.submissions_append, List.take_append_drop]
  have fits : RoomFor handed.length → full.pending.size +
      (submissions (r.loop.queue.take count)).length + RequestKind.maxRungs < UInt32.size := by
    intro room
    have few := followed.outstanding
    rw [parts, List.length_append] at few
    unfold RoomFor at room
    omega
  have kept := standing_batch followed.standing channel line handling free fits
  have requests := followed.requests
  rw [parts, ← List.append_assoc] at requests
  rcases ends with ⟨goes, after⟩ | ⟨stops, after⟩
  · rw [after]
    exact ⟨kept, requests, fun _ => goes, followed.behind.drop count,
      fun stopped => absurd (runs.symm.trans stopped) (by simp)⟩
  · have running := followed.running runs
    have shuts : .shutdown ∈ r.loop.queue.take count := by
      by_contra without
      rw [← handling] at free stops
      exact absurd ((Bridge.running_handleBatch free).mpr ⟨running, without⟩) (by simp [stops])
    have closed : Bridge.Ended handled := by
      rw [← handling] at free ⊢
      exact Bridge.ended_batch running shuts free
    have none := followed.behind.left shuts
    have left : submissions ((r.loop.amid channel r.loop.bridge.serials).queue.drop count) = [] :=
      none
    rw [none] at requests
    rw [left] at after
    rw [after]
    exact ⟨kept, requests, (fun running => nomatch running), .nil,
      fun _ => ⟨rfl, closed, r.now, rfl⟩⟩

section

omit [Channel χ]

variable {loop : EventLoop χ} {line : ModemLine}

/-- What a batch did may be entered into the ledger one by one. -/
theorem Handled.reflects (handled : Handled config loop line full handed taken)
    (tickets : handed.map (·.ticket) = List.range handed.length) {ledger : Ledger}
    (reflects : ledger.Reflects handed full.history) (seen : Nat) :
    ((loop.bridge.history.take seen).foldl Ledger.note ledger).Reflects handed
      (full.history ++ loop.bridge.history.take seen) := by
  have history : ((loop.bridge.onto ⟨full.journal, 0⟩).amid line loop.bridge.serials).history =
      full.history ++ loop.bridge.history := Bridge.history_onto loop.bridge ⟨full.journal, 0⟩
  rw [handled.requests] at tickets
  obtain ⟨known, due⟩ := known_of_standing handled.standing tickets
  rw [Bridge.outcomes, history, ← handled.requests] at known due
  have part : (full.history ++ loop.bridge.history.take seen).Sublist
      (full.history ++ loop.bridge.history) :=
    (List.take_sublist seen _).append_left full.history
  have told := part.filterMap Effect.outcome?
  refine reflects.noteAll (fun outcome member => known outcome (told.subset ?_))
    (Nat.le_trans told.length_le due)
  rw [List.filterMap_append]
  exact List.mem_append_right _ member

/-- The journal of a batch is entered into the ledger, and begins anew. -/
theorem Handled.absorbed (handled : Handled config loop line full handed taken)
    (tickets : handed.map (·.ticket) = List.range handed.length)
    (reflects : r.ledger.Reflects handed full.history) :
    Followed config (absorb { r with loop := loop.amid line loop.bridge.serials }) handed
      taken ((loop.bridge.onto ⟨full.journal, 0⟩).amid line loop.bridge.serials) := by
  refine ⟨rfl, handled.standing, handled.requests, tickets, ?_, handled.running, handled.behind, ?_⟩
  · have entered := handled.reflects tickets reflects loop.bridge.history.length
    rw [List.take_length] at entered
    have history : ((loop.bridge.onto ⟨full.journal, 0⟩).amid line loop.bridge.serials).history =
        full.history ++ loop.bridge.history := Bridge.history_onto loop.bridge ⟨full.journal, 0⟩
    rw [history]
    exact entered
  · intro ended
    obtain ⟨drained, closed, now, published⟩ := handled.stopped ended
    exact ⟨drained, (closed.onto ⟨full.journal, 0⟩).amid line loop.bridge.serials, now, published⟩

end

theorem followed_turned (followed : Followed config r handed taken full) (channel : χ)
    (count : Nat) (line : ModemLine)
    (sound : (r.turnAmid channel count line).loop.status ≠ .crashed) :
    ∃ taken full, Followed config (r.turnAmid channel count line) handed taken full := by
  by_cases runs : r.loop.status = .running
  · rw [turnAmid_of_running runs] at sound ⊢
    have handled := handled_turn followed runs channel count line sound
    exact ⟨_, _, handled.absorbed followed.tickets followed.ledger⟩
  · rw [turnAmid_of_ended runs]
    exact ⟨taken, full, followed⟩

end

/-- Something that is no request is queued. -/
theorem followed_queued (followed : Followed config r handed taken full)
    (runs : r.loop.status = .running) {event : Event} (none : submissions [event] = []) :
    Followed config { r with loop := { r.loop with queue := r.loop.queue ++ [event] } }
      handed taken full := by
  refine ⟨followed.bridge, followed.standing, ?_, followed.tickets, followed.ledger,
    followed.running, followed.behind.concat (.inr none), ?_⟩
  · rw [EventLoop.submissions_append, none, List.append_nil]
    exact followed.requests
  · intro stopped
    exact absurd (runs.symm.trans stopped) (by simp)

theorem followed_elsewhere (followed : Followed config r handed taken full)
    (line : ModemLine) (serials : SerialSource) (worker : ModemWorker) (random : Random)
    (now : Instant) :
    Followed config { r with
        loop := r.loop.amid line serials
        worker := worker
        random := random
        now := now } handed taken (full.amid line serials) := by
  refine ⟨?_, followed.standing.amid line serials, followed.requests, followed.tickets,
    followed.ledger, followed.running, followed.behind, ?_⟩
  · show r.loop.bridge.amid line serials = _
    rw [followed.bridge]
    rfl
  · intro stopped
    obtain ⟨drained, closed, instant, published⟩ := followed.stopped stopped
    exact ⟨drained, closed.amid line serials, instant, published⟩

/-- Unless the loop crashed, everything that happened can be told from what was handed in. -/
def Traceable (config : BridgeConfig) (r : Rehearsal) (handed : List Submission) : Prop :=
  r.loop.status = .crashed ∨ ∃ taken full, Followed config r handed taken full

theorem traceable_push (traceable : Traceable config r handed) {event : Event}
    (none : submissions [event] = []) : Traceable config (r.push [event]) handed := by
  by_cases runs : r.loop.status = .running
  · obtain crashed | ⟨taken, full, followed⟩ := traceable
    · exact absurd (runs.symm.trans crashed) (by simp)
    · rw [push_of_running runs]
      exact .inr ⟨taken, full, followed_queued followed runs none⟩
  · rw [push_of_ended runs]
    exact traceable

theorem traceable_stir {later : Rehearsal} (stir : Stir r later)
    (traceable : Traceable config r handed) : Traceable config later handed := by
  cases stir with
  | turned _ channel count line =>
      by_cases sound : (r.turnAmid channel count line).loop.status = .crashed
      · exact .inl sound
      · obtain crashed | ⟨taken, full, followed⟩ := traceable
        · have still := status_stir (.turned r channel count line) (by simp [crashed])
          exact absurd (still.trans crashed) sound
        · exact .inr (followed_turned followed channel count line sound)
  | @sent event _ inbound =>
      apply traceable_push traceable
      cases event with
      | submit => cases inbound
      | answer | requestAck | indication | channelLost | channelRestarted | listenIndications
      | listenStatus | shutdown => rfl
  | elsewhere _ line serials worker random now =>
      obtain crashed | ⟨taken, full, followed⟩ := traceable
      · exact .inl crashed
      · exact .inr ⟨taken, _, followed_elsewhere followed line serials worker random now⟩

theorem traceable_stirs {later : Rehearsal} (stirs : Stirs r later)
    (traceable : Traceable config r handed) : Traceable config later handed := by
  induction stirs with
  | refl => exact traceable
  | tail _ stir ih => exact traceable_stir stir ih

/-! ## No shutdown before the end -/

theorem mem_queue_turn {χ : Type} [Channel χ] {loop : EventLoop χ} {panics : Ticket → Bool}
    {count : Nat} {now : Instant} {event : Event}
    (member : event ∈ (loop.turn panics count now).queue) : event ∈ loop.queue := by
  have course : (loop.turn panics count now).queue = [] ∨
      (loop.turn panics count now).queue = loop.queue.drop count := by
    unfold EventLoop.turn
    extract_lets batch rest handled bridge done
    split
    split
    · exact .inl rfl
    · split
      · exact .inr rfl
      · exact .inl rfl
  rcases course with none | left
  · rw [none] at member
    exact absurd member List.not_mem_nil
  · rw [left] at member
    exact List.mem_of_mem_drop member

/-- The modem does not shut a bridge down. -/
theorem open_stir {later : Rehearsal} (stir : Stir r later)
    (unshut : .shutdown ∉ r.loop.queue) : .shutdown ∉ later.loop.queue := by
  cases stir with
  | turned _ channel count line =>
      by_cases runs : r.loop.status = .running
      · rw [turnAmid_of_running runs]
        intro member
        have left : .shutdown ∈ ((r.loop.amid channel r.loop.bridge.serials).turn
            (fun _ => false) count r.now).queue := member
        have queued := mem_queue_turn left
        exact unshut queued
      · rw [turnAmid_of_ended runs]
        exact unshut
  | @sent event _ inbound =>
      by_cases runs : r.loop.status = .running
      · rw [push_of_running runs]
        intro member
        rcases List.mem_append.mp member with earlier | last
        · exact unshut earlier
        · rw [← List.mem_singleton.mp last] at inbound
          cases inbound
      · rw [push_of_ended runs]
        exact unshut
  | elsewhere => exact unshut

theorem open_stirs {later : Rehearsal} (stirs : Stirs r later)
    (unshut : .shutdown ∉ r.loop.queue) : .shutdown ∉ later.loop.queue := by
  induction stirs with
  | refl => exact unshut
  | tail _ stir ih => exact open_stir stir ih

/-! ## The script -/

/-- What the script leads to: the loop can be followed, and has no shutdown in its queue. -/
structure Underway (config : BridgeConfig) (r : Rehearsal) (handed : List Submission) : Prop where
  traceable : Traceable config r handed
  unshut : .shutdown ∉ r.loop.queue

theorem Underway.stirs {later : Rehearsal} (underway : Underway config r handed)
    (stirs : Stirs r later) : Underway config later handed :=
  ⟨traceable_stirs stirs underway.traceable, open_stirs stirs underway.unshut⟩

theorem Underway.push (underway : Underway config r handed) {event : Event}
    (none : submissions [event] = []) (other : event ≠ .shutdown) :
    Underway config (r.push [event]) handed := by
  refine ⟨traceable_push underway.traceable none, ?_⟩
  by_cases runs : r.loop.status = .running
  · rw [push_of_running runs]
    intro member
    rcases List.mem_append.mp member with earlier | last
    · exact underway.unshut earlier
    · exact other (List.mem_singleton.mp last).symm
  · rw [push_of_ended runs]
    exact underway.unshut

theorem submit_eq_ok {later : Rehearsal} {kind : RequestKind} {payload : Payload}
    (made : r.submit kind payload = .ok later) :
    r.loop.status = .running ∧ ∃ serials serial, later = { r with
      loop := { r.loop with
        bridge := r.loop.bridge.amid r.loop.bridge.channel serials
        queue := r.loop.queue ++
          [.submit ⟨serial, kind, payload, r.origin, r.now, r.ledger.nextTicket⟩] }
      ledger := r.ledger.submitted kind } := by
  by_cases runs : r.loop.status = .running
  · have handedIn : r.submit kind payload = .ok { r with
        loop := { r.loop with
          bridge := r.loop.bridge.amid r.loop.bridge.channel r.loop.bridge.serials.take.2
          queue := r.loop.queue ++ [.submit ⟨r.loop.bridge.serials.take.1, kind, payload, r.origin,
            r.now, r.ledger.nextTicket⟩] }
        ledger := r.ledger.submitted kind } := by
      simp [submit, EventLoop.submit, EventLoop.push, EventLoop.isRunning, runs, Bridge.amid]
    rw [handedIn] at made
    exact ⟨runs, _, _, (Except.ok.inj made).symm⟩
  · simp [submit, EventLoop.submit, EventLoop.push, EventLoop.isRunning, runs] at made

/-- A request that is handed in is queued under the next ticket. -/
theorem followed_submit (followed : Followed config r handed taken full)
    (runs : r.loop.status = .running) (unshut : .shutdown ∉ r.loop.queue) (serials : SerialSource)
    {submission : Submission} (next : submission.ticket = r.ledger.nextTicket) :
    Followed config { r with
      loop := { r.loop with
        bridge := r.loop.bridge.amid r.loop.bridge.channel serials
        queue := r.loop.queue ++ [.submit submission] }
      ledger := r.ledger.submitted submission.kind } (handed ++ [submission]) taken
      (full.amid full.channel serials) := by
  have place : r.ledger.nextTicket = handed.length := by
    rw [Ledger.nextTicket, ← Array.length_toList, followed.ledger.kinds, List.length_map]
  have fits : RoomFor (handed ++ [submission]).length → RoomFor handed.length := by
    rw [List.length_append]
    unfold RoomFor
    omega
  refine ⟨?_, (followed.standing.amid full.channel serials).weaken fits, ?_, ?_,
    followed.ledger.hand submission, followed.running, followed.behind.concat (.inl unshut), ?_⟩
  · show r.loop.bridge.amid r.loop.bridge.channel serials = _
    rw [followed.bridge]
    rfl
  · rw [EventLoop.submissions_append, ← List.append_assoc, ← followed.requests]
    rfl
  · rw [List.map_append, followed.tickets, List.length_append, List.length_singleton,
      List.range_succ, List.map_singleton, next, place]
  · intro stopped
    exact absurd (runs.symm.trans stopped) (by simp)

theorem Underway.submit {later : Rehearsal} {kind : RequestKind} {payload : Payload}
    (underway : Underway config r handed) (made : r.submit kind payload = .ok later) :
    ∃ submission : Submission, submission.kind = kind ∧
      Underway config later (handed ++ [submission]) := by
  obtain ⟨runs, serials, serial, rfl⟩ := submit_eq_ok made
  obtain crashed | ⟨taken, full, followed⟩ := underway.traceable
  · exact absurd (runs.symm.trans crashed) (by simp)
  · refine ⟨⟨serial, kind, payload, r.origin, r.now, r.ledger.nextTicket⟩, rfl,
      .inr ⟨taken, _, followed_submit followed runs underway.unshut serials rfl⟩, ?_⟩
    intro member
    rcases List.mem_append.mp member with earlier | last
    · exact underway.unshut earlier
    · cases List.mem_singleton.mp last

theorem Underway.submits {last : Rehearsal} {kind : RequestKind} {payload : Payload} {count : Nat}
    (underway : Underway config r handed)
    (submits : Submits kind payload count r last) :
    ∃ more : List Submission, more.length = count ∧ (∀ submission ∈ more, submission.kind = kind) ∧
      Underway config last (handed ++ more) := by
  induction submits generalizing handed with
  | none stirs =>
      refine ⟨[], rfl, by simp, ?_⟩
      rw [List.append_nil]
      exact underway.stirs stirs
  | more stirs made rest ih =>
      obtain ⟨submission, own, next⟩ := (underway.stirs stirs).submit made
      obtain ⟨more, count, kinds, later⟩ := ih next
      refine ⟨submission :: more, congrArg (· + 1) count, ?_, ?_⟩
      · exact List.forall_mem_cons.mpr ⟨own, kinds⟩
      · rw [List.append_assoc] at later
        exact later

/-- An action of the script hands in what it says. -/
theorem Underway.acts {last : Rehearsal} {step : Step} (underway : Underway config r handed)
    (acts : Acts step r last) :
    ∃ more, AskedFor more [step] ∧ Underway config last (handed ++ more) := by
  have quiet : step.requestCount = 0 → (∀ kind, step.requestCountFor kind = 0) →
      Underway config last handed →
      ∃ more, AskedFor more [step] ∧ Underway config last (handed ++ more) := by
    intro total each later
    refine ⟨[], ⟨by simp [total], by simp [each]⟩, ?_⟩
    rw [List.append_nil]
    exact later
  cases acts with
  | submitted submits =>
      obtain ⟨more, total, kinds, later⟩ := underway.submits submits
      exact ⟨more, .of_kind total kinds, later⟩
  | waited | settled => exact quiet rfl (fun _ => rfl) underway
  | indicated => exact quiet rfl (fun _ => rfl) (underway.stirs (.single (.onLine _ _)))
  | lost stirs told | restarted stirs told =>
      have onStage := (underway.stirs (.single (.onLine _ _))).stirs stirs
      obtain ⟨-, rfl⟩ := tell_eq_ok told
      exact quiet rfl (fun _ => rfl) (onStage.push rfl (by simp))

/-- A script hands in what its actions say. -/
theorem Underway.plays {last : Rehearsal} {steps : List Step}
    (underway : Underway config r handed) (plays : Plays steps r last) :
    ∃ more, AskedFor more steps ∧ Underway config last (handed ++ more) := by
  induction plays generalizing handed with
  | done stirs =>
      refine ⟨[], ⟨rfl, fun _ => rfl⟩, ?_⟩
      rw [List.append_nil]
      exact underway.stirs stirs
  | acted stirs acts _ ih =>
      obtain ⟨first, asked, next⟩ := (underway.stirs stirs).acts acts
      obtain ⟨more, others, later⟩ := ih next
      refine ⟨first ++ more, asked.append others, ?_⟩
      rw [List.append_assoc] at later
      exact later

theorem underway_start {scenario : Scenario} {seed : UInt64} {firstSerial : UInt32}
    {first : Rehearsal} (started : start scenario seed firstSerial = .ok first) :
    Underway scenario.bridge first [] := by
  obtain ⟨-, rfl⟩ := start_eq_ok.mp started
  have fresh : Underway scenario.bridge (initial scenario seed firstSerial) [] :=
    ⟨.inr ⟨[], _, rfl, Bridge.standing_new _ _ _ _, rfl, rfl, Ledger.reflects_new, fun _ => rfl,
      .nil, fun stopped => absurd stopped (by simp [initial])⟩, by simp [initial]⟩
  exact (fresh.push rfl (by simp)).push rfl (by simp)

/-! ## The end -/

/-- When the bridge has ended with an empty queue, it took every request and told its outcome. -/
theorem Followed.complete (followed : Followed config r handed taken full)
    (drained : r.loop.queue = []) (closed : Bridge.Ended full) :
    taken = handed ∧ (full.outcomes.map (·.1)).Perm (List.range handed.length) := by
  have all : taken = handed := by
    rw [followed.requests, drained]
    exact (List.append_nil _).symm
  have none : full.pending.attempts.map (·.ticket) = [] := by
    rw [closed.pending]
    rfl
  have told := Bridge.tickets_of_tally followed.standing.tally
  rw [none, List.append_nil, all, followed.tickets] at told
  exact ⟨all, told⟩

/-- What can be followed to a loop that runs can be followed all the way. -/
theorem Underway.followed {later : Rehearsal} (underway : Underway config r handed)
    (stirs : Stirs r later) (runs : later.loop.status = .running) :
    ∃ taken full, Followed config r handed taken full := by
  have running := running_of_stirs stirs runs
  exact underway.traceable.resolve_left fun crashed => absurd (running.symm.trans crashed) (by simp)

/-- Who looks at the ledger while the loop goes on finds what happened so far. -/
theorem Underway.found {after closing : Rehearsal} {found : Ledger}
    (underway : Underway config r handed) (looks : Looks r found after)
    (stirs : Stirs after closing) (runs : closing.loop.status = .running) :
    ∃ history, found.Reflects handed history := by
  obtain ⟨taken, full, followed⟩ := underway.followed (looks.stirs.trans stirs) runs
  cases looks with
  | between => exact ⟨full.history, followed.ledger⟩
  | amid _ channel count seen line =>
      have running := running_of_stirs (.head (.turned r channel count line) stirs) runs
      have later := running_of_stirs stirs runs
      rw [turnAmid_of_running running] at later
      have sound : ((r.loop.amid channel r.loop.bridge.serials).turn (fun _ => false) count
          r.now).status ≠ .crashed := fun crashed => absurd (later.symm.trans crashed) (by simp)
      have handled := handled_turn followed running channel count line sound
      exact ⟨_, handled.reflects followed.tickets followed.ledger seen⟩

end Rehearsal

theorem Scenario.requestCount_eq_sum (scenario : Scenario) :
    scenario.requestCount = (scenario.steps.map Step.requestCount).sum := by
  rw [requestCount, List.sum_eq_foldl, List.foldl_map]

/-- The books of a scenario balance, where `found` is the ledger that one looked at before the
shutdown.  Both wake locks count references in 32 bits: what is said of the primary lock asks for
room for all requests, and what is said of the ack lock also for room for all acknowledgements. -/
structure Report.Balances (report : Report) (scenario : Scenario) (found : Ledger) : Prop where
  /-- Of each kind as many requests were handed in as the steps say, and as many have an outcome. -/
  each : ∀ kind, (report.outcomesFor kind).submitted = scenario.requestCountFor kind ∧
    (report.outcomesFor kind).completed = scenario.requestCountFor kind
  submitted : (RequestKind.all.map fun kind => (report.outcomesFor kind).submitted).sum =
    scenario.requestCount
  completed : report.diagnostics.totals.completed = scenario.requestCount
  classes : ∀ result,
    (RequestKind.all.map fun kind => (report.outcomesFor kind).ofClass result).sum =
      report.diagnostics.totals.ofClass result
  pending : report.diagnostics.pending = 0
  settled : report.settled = true ↔ found.outstanding = 0
  /-- What was outstanding when one looked, and what had an outcome, is everything. -/
  outstanding : found.outstanding +
    (RequestKind.all.map fun kind => (found.outcomesFor kind).completed).sum = scenario.requestCount
  primary : RoomFor scenario.requestCount → report.locks.primary.held = false ∧
    report.locks.primary.acquisitions = report.locks.primary.releases
  ack : RoomFor scenario.requestCount → report.diagnostics.totals.acksSent < UInt32.size →
    report.locks.ack.held = false ∧ report.locks.ack.acquisitions = report.locks.ack.releases

theorem balances_of_performs {scenario : Scenario} {seed : UInt64} {firstSerial : UInt32}
    {startedAt : Timestamp} {settling : Rehearsal} {found : Ledger} {report : Report}
    (performed : Performs scenario seed firstSerial startedAt settling found report) :
    report.Balances scenario found := by
  obtain ⟨first, started, plays⟩ := performed.played
  obtain ⟨next, closing, told, last, looks, stirs, shut, ends, stopped, rfl⟩ := performed.ended
  obtain ⟨handed, asked, settled⟩ := (Rehearsal.underway_start started).plays plays
  obtain ⟨runs, rfl⟩ := Rehearsal.tell_eq_ok shut
  have whole : handed.length = scenario.requestCount :=
    asked.total.trans scenario.requestCount_eq_sum.symm
  -- the ledger as it is when one looks at it
  obtain ⟨_, before⟩ := settled.found looks stirs runs
  -- the state from which the report is made
  have shutting : Rehearsal.Traceable scenario.bridge (closing.push [.shutdown]) handed :=
    Rehearsal.traceable_push (settled.stirs (looks.stirs.trans stirs)).traceable rfl
  obtain crashed | ⟨taken, full, after⟩ := Rehearsal.traceable_stirs ends shutting
  · exact absurd (stopped.symm.trans crashed) (by simp)
  obtain ⟨drained, closed, now, published⟩ := after.stopped stopped
  obtain ⟨rfl, tickets⟩ := after.complete drained closed
  obtain ⟨signs, counted⟩ := after.standing.counted
  have all : full.outcomes.length = taken.length := by
    have lengths := tickets.length_eq
    rwa [List.length_map, List.length_range] at lengths
  have ledger := after.ledger
  have entries : ∀ kind, (last.ledger.outcomesFor kind).submitted = scenario.requestCountFor kind :=
    fun kind => (ledger.submitted kind).trans (asked.each kind)
  have free : RoomFor scenario.requestCount → _ := fun room =>
    after.standing.locks_of_ended closed (whole.symm ▸ room)
  rw [← ledger.locks] at free
  constructor
  · intro kind
    exact ⟨entries kind, (ledger.completed_eq_submitted tickets kind).trans (entries kind)⟩
  · exact ledger.sum_submitted.trans whole
  · show last.loop.published.totals.completed = _
    rw [published]
    exact (counted.completed.trans all).trans whole
  · intro result
    show _ = last.loop.published.totals.ofClass result
    rw [published]
    exact (ledger.sum_ofClass result).trans (counted.outcomes result).symm
  · show last.loop.published.pending = 0
    rw [published]
    show full.pending.size = 0
    rw [closed.pending]
    rfl
  · exact decide_eq_true_iff
  · rw [before.sum_completed, before.outstanding]
    exact whole
  · exact fun room => (free room).1
  · intro room few
    replace few : last.loop.published.totals.acksSent < UInt32.size := few
    rw [published] at few
    exact (free room).2 (.of_count (counted.acksSent ▸ few))

/-- At the end of a scenario its books balance, in whatever order the script, the loop and the modem
move; so in particular when a rehearsal comes to a report, which is one such performance. -/
theorem report_balances (scenario : Scenario) (firstSerial : UInt32) (startedAt : Timestamp) :
    (∀ seed settling found report,
      Performs scenario seed firstSerial startedAt settling found report →
      report.Balances scenario found) ∧
    ∀ seed report, scenario.rehearse seed firstSerial startedAt = .ok report →
      ∃ settling, Performs scenario ((seed <|> scenario.seed).getD 0) firstSerial startedAt settling
        settling.ledger report ∧ report.Balances scenario settling.ledger := by
  refine ⟨fun _ _ _ _ performed => balances_of_performs performed, ?_⟩
  intro seed report made
  obtain ⟨settling, performed⟩ := performs_of_rehearse made
  exact ⟨settling, performed, balances_of_performs performed⟩

/-- One scenario, played twice.  First, of two requests one was answered when one looked, and the
shutdown failed the other; then, in a rehearsal, both were answered. -/
theorem report_balances_at_shutdown :
    let scenario : Scenario :=
      { name := "demo"
        steps := [.submit .sendSms 2 ""] }
    let start := (Rehearsal.initial scenario 0 1).push [.listenStatus 0, .listenIndications 0]
    let one := (start.submit .sendSms "".toUTF8).toOption.getD start
    let two := (one.submit .sendSms "".toUTF8).toOption.getD one
    let answered := (two.turn 4).push [.answer (.plain ⟨1⟩ .sendSms .success) .empty]
    let settling := answered.turn 1
    let last := (settling.push [.shutdown]).turn 1
    let report := last.report scenario 0 ⟨0⟩ settling.isSettled
    (report.settled = false ∧ settling.ledger.outstanding = 1 ∧
      (report.outcomesFor .sendSms).completed = 2 ∧ report.diagnostics.totals.completed = 2 ∧
      report.locks.primary.acquisitions = report.locks.primary.releases ∧
      report.locks.ack.held = false) ∧
    ∃ rehearsed, scenario.rehearse none 1 ⟨0⟩ = .ok rehearsed ∧ rehearsed.settled = true ∧
      rehearsed.diagnostics.totals.completed = 2 ∧
      rehearsed.locks.primary.acquisitions = rehearsed.locks.primary.releases := by
  intro scenario start one two answered settling last report
  obtain ⟨balances, rehearsals⟩ := report_balances scenario 1 ⟨0⟩
  have few : RoomFor scenario.requestCount := by
    unfold RoomFor
    decide +kernel
  constructor
  · have first : start.submit .sendSms "".toUTF8 = .ok one := eq_ok_of_isSome (by decide +kernel) _
    have second : one.submit .sendSms "".toUTF8 = .ok two := eq_ok_of_isSome (by decide +kernel) _
    have stirs : Stirs two settling :=
      .head (Rehearsal.stir_turn _ _) (.head (.sent _ rfl) (.single (Rehearsal.stir_turn _ _)))
    have running : settling.loop.status = .running := by decide +kernel
    have ends : Stirs (settling.push [.shutdown]) last := .single (Rehearsal.stir_turn _ _)
    have valid : ({} : BridgeConfig).validate = .ok () := rfl
    have performed : Performs scenario 0 1 ⟨0⟩ settling settling.ledger report :=
      ⟨⟨start, Rehearsal.start_eq_ok.mpr ⟨valid, rfl⟩,
          .acted .refl (.submitted (.more .refl first (.more .refl second (.none .refl))))
            (.done stirs)⟩,
        settling, settling, settling.push [.shutdown], last, .between settling, .refl,
        Rehearsal.tell_of_running running _, ends, by decide +kernel, rfl⟩
    have books := balances 0 settling settling.ledger report performed
    have outstanding : settling.ledger.outstanding = 1 := by decide +kernel
    have unsettled : ¬ report.settled = true := by
      rw [books.settled, outstanding]
      decide
    exact ⟨Bool.eq_false_iff.mpr unsettled, outstanding, (books.each .sendSms).2, books.completed,
      (books.primary few).2, (books.ack few (by decide +kernel)).1⟩
  · obtain ⟨rehearsed, made⟩ : ∃ rehearsed, scenario.rehearse none 1 ⟨0⟩ = .ok rehearsed :=
      ⟨_, eq_ok_of_isSome (by decide +kernel) (last.report scenario 0 ⟨0⟩ true)⟩
    obtain ⟨_, -, books⟩ := rehearsals none rehearsed made
    have settled : (scenario.rehearse none 1 ⟨0⟩).toOption.map (·.settled) = some true := by
      decide +kernel
    rw [made] at settled
    exact ⟨rehearsed, made, Option.some.inj settled, books.completed, (books.primary few).2⟩

/-- Past the room of its counter the ack lock does not balance: when the modem sends 2^32 frames
that ask for an acknowledgement, all in one hold, the report shows the lock held, taken and never
given back. -/
theorem ack_lock_unbalanced_past_room :
    ∃ report, (Scenario.ofFrames UInt32.size).rehearse none 1 ⟨0⟩ = .ok report ∧
      report.settled = true ∧ report.locks.ack.held = true ∧
      report.locks.ack.acquisitions ≠ report.locks.ack.releases := by
  obtain ⟨settling, poured, played⟩ := Scenario.rehearse_ofFrames UInt32.size
  obtain ⟨last, finished, held, taken, kept⟩ := poured.finish _
  have uneven : last.ledger.locks.ack.acquisitions ≠ last.ledger.locks.ack.releases := by
    omega
  exact ⟨_, played last finished, rfl, held, uneven⟩

end ModemLink
