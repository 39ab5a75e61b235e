/-
Module: ModemLink.Proofs.StaleAnswers
Purpose: Answers that nothing waits for change nothing but their count.
Main exports: Item, Turn, AllStale, Beside, Beside.steps, stale_answers_harmless
-/
import ModemLink.Proofs.Past

namespace ModemLink

/-!
A modem may repeat its answers, or answer what was given up long ago.  Two runs are compared: one
with answers added to it, in its batches and between its calls, and the same run without them.
Where nothing waits for an added answer at the moment at which it is handled, the two bridges differ
in their pasts alone.
-/

/-- An event of a batch: one of its own, or an answer that was added. -/
inductive Item where
  | own (event : Event)
  | added (header : AnswerHeader) (payload : Payload)

namespace Item

def event : Item → Event
  | own event => event
  | added header payload => .answer header payload

/-- The event, unless it was added. -/
def own? : Item → Option Event
  | own event => some event
  | added _ _ => none

/-- Items in the order in which a batch handles them. -/
def inPhaseOrder (items : List Item) : List Item :=
  items.filter (·.event.phase = .inbound) ++ items.filter (·.event.phase = .submission)
    ++ items.filter (·.event.phase = .control)

theorem map_event_inPhaseOrder (items : List Item) :
    (inPhaseOrder items).map event = Event.inPhaseOrder (items.map event) := by
  simp only [inPhaseOrder, Event.inPhaseOrder, List.map_append, List.filter_map, Function.comp_def]

/-- Additions do not change the order of the other events. -/
theorem filterMap_own?_inPhaseOrder (items : List Item) :
    (inPhaseOrder items).filterMap own? = Event.inPhaseOrder (items.filterMap own?) := by
  have phases : ∀ phase : Phase, (items.filter (·.event.phase = phase)).filterMap own? =
      (items.filterMap own?).filter (·.phase = phase) := by
    intro phase
    rw [List.filterMap_filter, List.filter_filterMap]
    congr 1
    funext item
    cases item with
    | own event =>
        by_cases own : event.phase = phase <;> simp [Item.event, own?, Option.filter, own]
    | added header payload => exact ite_self none
  simp only [inPhaseOrder, Event.inPhaseOrder, List.filterMap_append, phases]

end Item

/-- A call of a run to which answers were added. -/
inductive Turn (χ : Type) where
  /-- A call of the run itself. -/
  | call (call : Call χ)
  /-- A batch of the run, with answers added to it. -/
  | batch (items : List Item) (now : Instant)
  /-- An answer added between calls. -/
  | added (header : AnswerHeader) (payload : Payload) (now : Instant)

namespace Turn

variable {χ : Type}

/-- The call with what was added to it. -/
def full : Turn χ → Call χ
  | call own => own
  | batch items now => .batch (items.map Item.event) now
  | added header payload now => .event (.answer header payload) now

/-- The call without what was added, if anything is left. -/
def own? : Turn χ → Option (Call χ)
  | call own => some own
  | batch items now => some (.batch (items.filterMap Item.own?) now)
  | added _ _ _ => none

def isAdded : Turn χ → Bool
  | added _ _ _ => true
  | _ => false

/-- One item of a batch as a call by itself. -/
def ofItem (now : Instant) : Item → Turn χ
  | .own event => call (.event event now)
  | .added header payload => added header payload now

/-- The steps of a turn. -/
def steps : Turn χ → List (Turn χ)
  | call own => own.steps.map call
  | batch items now =>
    call (.timers now) :: (Item.inPhaseOrder items).map (ofItem now) ++ [call .sampled]
  | added header payload now => [added header payload now]

theorem map_full_steps (turn : Turn χ) : turn.steps.map full = turn.full.steps := by
  cases turn with
  | call own =>
      rw [steps, List.map_map]
      exact List.map_id own.steps
  | added => rfl
  | batch items now =>
      rw [full, Call.steps, steps, ← Item.map_event_inPhaseOrder, List.map_append, List.map_cons,
        List.map_map, List.map_map]
      have events : full ∘ ofItem now =
          (fun event => (.event event now : Call χ)) ∘ Item.event := by
        funext item
        cases item <;> rfl
      rw [events]
      rfl

theorem filterMap_own?_steps (turn : Turn χ) :
    turn.steps.filterMap own? = turn.own?.toList.flatMap Call.steps := by
  cases turn with
  | call own =>
      rw [steps, List.filterMap_map]
      exact List.filterMap_some.trans (List.flatMap_singleton _ _).symm
  | added => rfl
  | batch items now =>
      show _ = [Call.batch (items.filterMap Item.own?) now].flatMap Call.steps
      rw [List.flatMap_singleton, Call.steps, steps, ← Item.filterMap_own?_inPhaseOrder,
        List.filterMap_append, List.map_filterMap]
      have events : (fun item => (ofItem now item).own?) =
          fun item => (Item.own? item).map fun event => (.event event now : Call χ) := by
        funext item
        cases item <;> rfl
      rw [← events]
      exact congrArg (fun events => Call.timers now :: events ++ [.sampled]) List.filterMap_map

/-- A run with additions is the run of its steps with them, and without them of its own steps. -/
theorem steps_of_turns (turns : List (Turn χ)) :
    (turns.map full).flatMap Call.steps = (turns.flatMap steps).map full ∧
      (turns.filterMap own?).flatMap Call.steps = (turns.flatMap steps).filterMap own? := by
  induction turns with
  | nil => exact ⟨rfl, rfl⟩
  | cons turn rest ih =>
      obtain ⟨withAll, without⟩ := ih
      refine ⟨?_, ?_⟩
      · rw [List.map_cons, List.flatMap_cons, List.flatMap_cons, List.map_append, withAll,
          map_full_steps]
      · rw [List.flatMap_cons, List.filterMap_append, filterMap_own?_steps, ← without]
        cases own : turn.own? with
        | none => rw [List.filterMap_cons_none own]; rfl
        | some call =>
            rw [List.filterMap_cons_some own, List.flatMap_cons, Option.toList_some,
              List.flatMap_singleton]

theorem not_batch_of_mem_steps {turn step : Turn χ} (member : step ∈ turn.steps)
    (items : List Item) (now : Instant) : step ≠ .batch items now := by
  rintro rfl
  cases turn with
  | call own => simp [steps] at member
  | added => simp [steps] at member
  | batch others later =>
      simp only [steps, List.cons_append, List.mem_cons, List.mem_append, List.mem_map,
        reduceCtorEq, List.not_mem_nil, or_false, false_or] at member
      obtain ⟨item, -, same⟩ := member
      cases item <;> simp [ofItem] at same

end Turn

namespace Bridge

variable {χ : Type}

/-- Nothing waits for the answer that is added. -/
def IsStale (bridge : Bridge χ) : Turn χ → Prop
  | .added header _ _ => bridge.pending.find? header.serial = none
  | _ => True

instance (bridge : Bridge χ) : (turn : Turn χ) → Decidable (bridge.IsStale turn)
  | .added header _ _ => inferInstanceAs (Decidable (bridge.pending.find? header.serial = none))
  | .call _ | .batch _ _ => inferInstanceAs (Decidable True)

section

variable [Channel χ]

/-- Whenever an answer is added, nothing waits for it. -/
def AllStale : Bridge χ → List (Turn χ) → Prop
  | _, [] => True
  | bridge, step :: rest => bridge.IsStale step ∧ AllStale (bridge.call step.full) rest

instance decidableAllStale : (bridge : Bridge χ) → (steps : List (Turn χ)) →
    Decidable (bridge.AllStale steps)
  | _, [] => inferInstanceAs (Decidable True)
  | bridge, step :: rest =>
    have := decidableAllStale (bridge.call step.full) rest
    inferInstanceAs (Decidable (bridge.IsStale step ∧ AllStale (bridge.call step.full) rest))

end

/-- Two bridges that differ in stale answers alone: their counts, and their samples. -/
structure Beside (added : Nat) (plain noisy : Bridge χ) : Prop where
  present : noisy.present = plain.present
  stale : noisy.totals.staleAnswers = plain.totals.staleAnswers + added
  quiet : noisy.history.filter (· ≠ .measured .staleAnswer) =
    plain.history.filter (· ≠ .measured .staleAnswer)

namespace Beside

variable {added : Nat} {plain noisy : Bridge χ}

theorem refl (bridge : Bridge χ) : Beside 0 bridge bridge :=
  ⟨rfl, rfl, rfl⟩

theorem pending (beside : Beside added plain noisy) : noisy.pending = plain.pending :=
  show noisy.present.pending = plain.present.pending from congrArg Bridge.pending beside.present

theorem collision (beside : Beside added plain noisy) : noisy.collision = plain.collision :=
  show noisy.present.collision = plain.present.collision from
    congrArg Bridge.collision beside.present

/-- The bridges are the same in all that is read. -/
theorem same (beside : Beside added plain noisy) :
    { noisy with totals := plain.totals, journal := plain.journal } = plain :=
  congrArg (fun bridge : Bridge χ => { bridge with
    totals := plain.totals
    journal := plain.journal }) beside.present

theorem totals (beside : Beside added plain noisy) :
    noisy.totals = { plain.totals with staleAnswers := plain.totals.staleAnswers + added } := by
  rw [← beside.stale]
  exact congrArg (fun bridge : Bridge χ => { bridge.totals with
    staleAnswers := noisy.totals.staleAnswers }) beside.present

/-- A reading of the history that takes no notice of stale answers. -/
theorem reading (beside : Beside added plain noisy) {α : Type} {view : Effect → Option α}
    (blind : view (.measured .staleAnswer) = none) :
    noisy.history.filterMap view = plain.history.filterMap view := by
  have quietly : ∀ effects : List Effect, effects.filterMap view =
      (effects.filter (· ≠ .measured .staleAnswer)).filterMap view := by
    intro effects
    rw [List.filterMap_filter]
    congr 1
    funext effect
    by_cases sample : effect = .measured .staleAnswer
    · rw [sample, blind]
      rfl
    · rw [if_pos (decide_eq_true sample)]
  rw [quietly, quietly plain.history, beside.quiet]

/-- A call of both runs. -/
theorem call [Channel χ] (beside : Beside added plain noisy) (call : Call χ) :
    Beside added (plain.call call) (noisy.call call) := by
  rw [call_eq_onto plain, call_eq_onto noisy, beside.present]
  refine ⟨rfl, ?_, ?_⟩
  · show _ + noisy.totals.staleAnswers = _ + plain.totals.staleAnswers + added
    rw [beside.stale, Nat.add_assoc]
  · rw [history_onto, history_onto, List.filter_append, List.filter_append]
    exact congrArg (· ++ _) beside.quiet

/-- An answer that nothing waits for. -/
theorem countStale (beside : Beside added plain noisy) :
    Beside (added + 1) plain noisy.countStale where
  present := beside.present
  stale := congrArg (· + 1) beside.stale
  quiet := by
    rw [Bridge.countStale, measure, history_emit, List.filter_append]
    exact (List.append_nil _).trans beside.quiet

end Beside

section

variable [Channel χ]

theorem run_filterMap_cons (bridge : Bridge χ) (own? : Turn χ → Option (Call χ)) (first : Turn χ)
    (rest : List (Turn χ)) :
    bridge.run ((first :: rest).filterMap own?) =
      (bridge.run (own? first).toList).run (rest.filterMap own?) := by
  rw [← run_append]
  cases own : own? first with
  | none => rw [List.filterMap_cons_none own]; rfl
  | some call => rw [List.filterMap_cons_some own]; rfl

/-- One step, with what was added to it and without. -/
theorem Beside.step {added : Nat} {plain noisy : Bridge χ} (beside : Beside added plain noisy)
    {step : Turn χ} (single : ∀ items now, step ≠ .batch items now)
    (sound : plain.collision = none) (stale : noisy.IsStale step) :
    Beside (added + [step].countP Turn.isAdded) (plain.run step.own?.toList)
      (noisy.call step.full) := by
  cases step with
  | batch items now => exact absurd rfl (single items now)
  | call own => exact beside.call own
  | added header payload now =>
      have counted : noisy.call (Turn.added header payload now).full = noisy.countStale := by
        have handled := handle_of_sound (beside.collision.trans sound) now (.answer header payload)
        exact handled.trans (onAnswer_of_stale stale payload now)
      rw [counted]
      exact beside.countStale

/-- Steps, with what was added to them and without. -/
theorem Beside.steps {added : Nat} {plain noisy : Bridge χ} (beside : Beside added plain noisy)
    {steps : List (Turn χ)} (single : ∀ step ∈ steps, ∀ items now, step ≠ .batch items now)
    (sound : (plain.run (steps.filterMap Turn.own?)).collision = none)
    (stale : AllStale noisy steps) :
    Beside (added + steps.countP Turn.isAdded) (plain.run (steps.filterMap Turn.own?))
      (noisy.run (steps.map Turn.full)) := by
  induction steps generalizing added plain noisy with
  | nil => exact beside
  | cons step rest ih =>
      rw [run_filterMap_cons] at sound ⊢
      have next := beside.step (single step List.mem_cons_self)
        (collision_of_run (collision_of_run sound)) stale.1
      have whole := ih next (fun later member => single later (List.mem_cons_of_mem step member))
        sound stale.2
      rw [Nat.add_assoc, ← List.countP_append] at whole
      exact whole

/-- Answers are added to a run, in its batches and between its calls, at any points and in any
number, with any serials, codes and payloads, so that nothing waits for them when they are handled.
Then the bridge ends as it does without them, but for its totals and its history: the former have as
many more stale answers as were added, and the latter the samples of them.  So the same outcomes are
told in the same order, the same frames are handed over, and no acknowledgement, no call to a lock
and no change of the fault status is added. -/
theorem stale_answers_harmless (start : Bridge χ) (turns : List (Turn χ))
    (sound : (start.run (turns.filterMap Turn.own?)).collision = none)
    (stale : AllStale start (turns.flatMap Turn.steps)) :
    let plain := start.run (turns.filterMap Turn.own?)
    let noisy := start.run (turns.map Turn.full)
    { noisy with totals := plain.totals, journal := plain.journal } = plain ∧
    noisy.totals = { plain.totals with staleAnswers :=
      plain.totals.staleAnswers + (turns.flatMap Turn.steps).countP Turn.isAdded } ∧
    noisy.outcomes = plain.outcomes ∧ noisy.handovers = plain.handovers ∧
    noisy.history.filter (· ≠ .measured .staleAnswer) =
      plain.history.filter (· ≠ .measured .staleAnswer) := by
  intro plain noisy
  obtain ⟨withAll, without⟩ := Turn.steps_of_turns turns
  have single : ∀ step ∈ turns.flatMap Turn.steps, ∀ items now, step ≠ .batch items now := by
    intro step member
    obtain ⟨turn, -, inside⟩ := List.mem_flatMap.mp member
    exact Turn.not_batch_of_mem_steps inside
  -- In steps, each addition is judged at the moment at which it is handled.
  rw [← run_steps, without] at sound
  have beside := (Beside.refl start).steps single sound stale
  rw [← without, ← withAll, run_steps, run_steps, Nat.zero_add] at beside
  exact ⟨beside.same, beside.totals, beside.reading rfl, beside.reading rfl, beside.quiet⟩

/-- An answer under serial 0 comes before the request, the modem repeats that it does not know the
version, and it answers the retry twice, the second time with an error and asking for an
acknowledgement. -/
theorem stale_answers_harmless_around_retry :
    let start := new {} (.start 2) ({} : RecordingChannel)
    let unknown : AnswerHeader := .plain ⟨1⟩ .getSignalStrength .requestNotSupported
    let turns := [.batch [.own (.submit ⟨⟨1⟩, .getSignalStrength, .empty, .unknown, 0, 7⟩),
        .added (.plain ⟨0⟩ .sendSms .success) .empty] 0,
      .call (.event (.answer unknown .empty) 1), .added unknown .empty 1,
      .batch [.own (.answer (.plain ⟨2⟩ .getSignalStrength .success) .empty),
        .added ⟨⟨2⟩, .getSignalStrength, .internalError, .solicitedAckExpected⟩ .empty] 2]
    let noisy := start.run (turns.map Turn.full)
    noisy.outcomes = [(7, .ok .empty)] ∧ noisy.totals.staleAnswers = 3 ∧
      noisy.totals.acksSent = 0 ∧ noisy.locks.ack.count = 0 := by
  intro start unknown turns noisy
  obtain ⟨-, totals, outcomes, -, -⟩ :=
    stale_answers_harmless start turns (by decide +kernel) (by decide +kernel)
  refine ⟨outcomes.trans (by decide +kernel), ?_, ?_, ?_⟩
  · rw [totals]
    decide +kernel
  · rw [totals]
    decide +kernel
  · decide +kernel

end

end Bridge

end ModemLink
