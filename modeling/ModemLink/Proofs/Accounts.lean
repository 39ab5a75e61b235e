/-
Module: ModemLink.Proofs.Accounts
Purpose: The accounts of a scenario reflect what was handed in and what came of it.
Main exports:
  KindOutcomes.ofClass, sum_kinds, kindOf, toldFor, Ledger.Reflects, Reflects.hand, Reflects.noteAll,
  Reflects.sum_submitted, Reflects.sum_ofClass, Reflects.sum_completed
-/
import Mathlib.Algebra.BigOperators.Group.List.Basic
import Mathlib.Algebra.GroupWithZero.Nat
import ModemLink.Ledger
import ModemLink.Proofs.Meters

namespace ModemLink

/-!
A ledger is written from two sides: when a request is handed in, and when something happens to the
world.  Tickets count the requests from zero, so the place of a request among those handed in tells
its kind.  `Ledger.Reflects` says what the entries are, given both sides from their beginning.
-/

namespace KindOutcomes

/-- How many outcomes of a class there are. -/
def ofClass (outcomes : KindOutcomes) : OutcomeClass → Nat
  | .ok => outcomes.ok
  | .rejected => outcomes.rejected
  | .unsupported => outcomes.unsupported
  | .timedOut => outcomes.timedOut
  | .channelUnavailable => outcomes.channelUnavailable

theorem ofClass_record (outcomes : KindOutcomes) (result other : OutcomeClass) :
    (outcomes.record result).ofClass other =
      outcomes.ofClass other + if result = other then 1 else 0 := by
  cases result <;> cases other <;> rfl

theorem submitted_record (outcomes : KindOutcomes) (result : OutcomeClass) :
    (outcomes.record result).submitted = outcomes.submitted := by
  cases result <;> rfl

end KindOutcomes

/-! ## Sums over kinds -/

/-- What is counted kind by kind is counted. -/
theorem sum_kinds {α : Type} (kind? : α → Option RequestKind) {items : List α}
    (known : ∀ item ∈ items, (kind? item).isSome) {p : α → Bool} {count : RequestKind → Nat}
    (each : ∀ kind, count kind = (items.filter fun item => kind? item = some kind).countP p) :
    (RequestKind.all.map count).sum = items.countP p := by
  obtain rfl := funext each
  induction items with
  | nil => rfl
  | cons item rest ih =>
      obtain ⟨first, later⟩ := List.forall_mem_cons.mp known
      obtain ⟨own, isOwn⟩ := Option.isSome_iff_exists.mp first
      have parts : ∀ kind, ((item :: rest).filter fun item => kind? item = some kind).countP p =
          (rest.filter fun item => kind? item = some kind).countP p +
            if kind = own then (if p item then 1 else 0) else 0 := by
        intro kind
        by_cases same : kind = own
        · subst same
          simp [isOwn, List.countP_cons]
        · simp [isOwn, same, Ne.symm same]
      have once : (RequestKind.all.map fun kind =>
          if kind = own then (if p item then 1 else 0) else 0).sum = if p item then 1 else 0 := by
        cases own <;> simp [RequestKind.all]
      simp only [parts, List.sum_map_add, ih later fun _ => rfl, once, List.countP_cons]

/-! ## Kinds of tickets -/

/-- The kind of the request behind a ticket, when tickets count the requests. -/
def kindOf (handed : List Submission) (ticket : Ticket) : Option RequestKind :=
  handed[ticket]?.map (·.kind)

theorem kindOf_isSome {handed : List Submission} {ticket : Ticket} :
    (kindOf handed ticket).isSome ↔ ticket < handed.length := by
  simp [kindOf]

theorem kindOf_append {handed : List Submission} {ticket : Ticket} (known : ticket < handed.length)
    (more : List Submission) : kindOf (handed ++ more) ticket = kindOf handed ticket := by
  rw [kindOf, List.getElem?_append_left known]
  rfl

/-- The outcomes among some effects that are of requests of a kind. -/
def toldFor (handed : List Submission) (history : List Effect) (kind : RequestKind) :
    List (Ticket × Outcome) :=
  (history.filterMap Effect.outcome?).filter fun told => kindOf handed told.1 = some kind

namespace Ledger

theorem outcomesFor_set (ledger : Ledger) (kind other : RequestKind) (outcomes : KindOutcomes) :
    ({ ledger with outcomes := ledger.outcomes.set kind (some outcomes) } : Ledger).outcomesFor
      other = if other = kind then outcomes else ledger.outcomesFor other := by
  unfold outcomesFor
  rw [RequestKind.Table.get_set]
  split <;> rfl

/-- The entries of a ledger, when some requests were handed in and `history` happened. -/
structure Reflects (ledger : Ledger) (handed : List Submission) (history : List Effect) :
    Prop where
  kinds : ledger.kinds.toList = handed.map (·.kind)
  submitted : ∀ kind, (ledger.outcomesFor kind).submitted = handed.countP (·.kind = kind)
  known : ∀ told ∈ history.filterMap Effect.outcome?, told.1 < handed.length
  told : ∀ kind result, (ledger.outcomesFor kind).ofClass result =
    (toldFor handed history kind).countP (·.2.outcomeClass = result)
  outstanding : ledger.outstanding + (history.filterMap Effect.outcome?).length = handed.length
  locks : ledger.locks = LockUsages.afterAll {} history

theorem reflects_new : Reflects {} [] [] where
  kinds := rfl
  submitted kind := by simp [outcomesFor]
  known := by simp
  told kind result := by cases result <;> simp [outcomesFor, toldFor, KindOutcomes.ofClass]
  outstanding := rfl
  locks := rfl

namespace Reflects

variable {ledger : Ledger} {handed : List Submission} {history : List Effect}

/-- A request is handed in. -/
theorem hand (reflects : ledger.Reflects handed history) (submission : Submission) :
    (ledger.submitted submission.kind).Reflects (handed ++ [submission]) history := by
  have entry : ∀ kind, (ledger.submitted submission.kind).outcomesFor kind =
      if kind = submission.kind then
        { ledger.outcomesFor submission.kind with
          submitted := (ledger.outcomesFor submission.kind).submitted + 1 }
      else ledger.outcomesFor kind :=
    fun kind => ledger.outcomesFor_set submission.kind kind _
  have same : ∀ kind, toldFor (handed ++ [submission]) history kind =
      toldFor handed history kind := by
    intro kind
    apply List.filter_congr
    intro told member
    rw [kindOf_append (reflects.known told member)]
  constructor
  · show (ledger.kinds.push submission.kind).toList = _
    rw [Array.toList_push, reflects.kinds, List.map_append]
    rfl
  · intro kind
    rw [entry, List.countP_append, ← reflects.submitted kind, List.countP_singleton]
    by_cases own : kind = submission.kind
    · subst own
      simp
    · simp [own, Ne.symm own]
  · intro told member
    rw [List.length_append]
    exact Nat.lt_add_right 1 (reflects.known told member)
  · intro kind result
    rw [same, ← reflects.told kind result, entry]
    split
    · rename_i own
      subst own
      cases result <;> rfl
    · rfl
  · have balance := reflects.outstanding
    show ledger.outstanding + 1 + _ = _
    rw [List.length_append, List.length_singleton]
    omega
  · exact reflects.locks

/-- Something happens that is no outcome. -/
theorem noteAside (reflects : ledger.Reflects handed history) {effect : Effect}
    (aside : effect.outcome? = none) :
    (ledger.note effect).Reflects handed (history ++ [effect]) := by
  have outcomes : (history ++ [effect]).filterMap Effect.outcome? =
      history.filterMap Effect.outcome? := by
    simp [List.filterMap_append, aside]
  have same : (ledger.note effect).kinds = ledger.kinds ∧
      (ledger.note effect).outcomes = ledger.outcomes ∧
      (ledger.note effect).outstanding = ledger.outstanding ∧
      (ledger.note effect).locks = ledger.locks.after effect := by
    cases effect with
    | settled => simp [Effect.outcome?] at aside
    | lockTaken | lockGivenBack | handed | acknowledged | indicated | statusTold | measured =>
        exact ⟨rfl, rfl, rfl, rfl⟩
  obtain ⟨kinds, entries, outstanding, locks⟩ := same
  have entry : (ledger.note effect).outcomesFor = ledger.outcomesFor := by
    funext kind
    rw [outcomesFor, entries]
    rfl
  constructor
  · rw [kinds, reflects.kinds]
  · rw [entry]
    exact reflects.submitted
  · rw [outcomes]
    exact reflects.known
  · rw [entry]
    unfold toldFor
    rw [outcomes]
    exact reflects.told
  · rw [outcomes, outstanding, reflects.outstanding]
  · rw [locks, LockUsages.afterAll, List.foldl_append]
    exact congrArg (·.after effect) reflects.locks

/-- A request that had no outcome yet gets one. -/
theorem noteSettled (reflects : ledger.Reflects handed history) {ticket : Ticket}
    {outcome : Outcome} (known : ticket < handed.length)
    (due : (history.filterMap Effect.outcome?).length < handed.length) :
    (ledger.note (.settled ticket outcome)).Reflects handed
      (history ++ [.settled ticket outcome]) := by
  have outcomes : (history ++ [Effect.settled ticket outcome]).filterMap Effect.outcome? =
      history.filterMap Effect.outcome? ++ [(ticket, outcome)] := by
    simp [List.filterMap_append, Effect.outcome?]
  obtain ⟨own, isOwn⟩ := Option.isSome_iff_exists.mp (kindOf_isSome.mpr known)
  have looked : ledger.kinds[ticket]? = some own := by
    rw [← Array.getElem?_toList, reflects.kinds, List.getElem?_map]
    exact isOwn
  have course : ledger.note (.settled ticket outcome) =
      { ledger with
        outcomes := ledger.outcomes.set own
          (some ((ledger.outcomesFor own).record outcome.outcomeClass))
        outstanding := ledger.outstanding - 1
        locks := ledger.locks.after (.settled ticket outcome) } := by
    simp only [note, looked]
    rfl
  have entry : ∀ kind, (ledger.note (.settled ticket outcome)).outcomesFor kind =
      if kind = own then (ledger.outcomesFor own).record outcome.outcomeClass
      else ledger.outcomesFor kind := by
    intro kind
    rw [course]
    exact ledger.outcomesFor_set own kind _
  constructor
  · rw [course]
    exact reflects.kinds
  · intro kind
    rw [entry, ← reflects.submitted kind]
    split
    · rename_i same
      rw [KindOutcomes.submitted_record, same]
    · rfl
  · rw [outcomes]
    intro told member
    rcases List.mem_append.mp member with earlier | last
    · exact reflects.known told earlier
    · rw [List.mem_singleton.mp last]
      exact known
  · intro kind result
    rw [entry, toldFor, outcomes, List.filter_append, List.countP_append, ← toldFor,
      ← reflects.told kind result]
    by_cases same : kind = own
    · subst same
      rw [if_pos rfl, KindOutcomes.ofClass_record]
      simp [isOwn, List.countP_singleton]
    · simp [same, isOwn, Ne.symm same]
  · have balance := reflects.outstanding
    rw [course, outcomes, List.length_append, List.length_singleton]
    show ledger.outstanding - 1 + _ = _
    omega
  · rw [course, LockUsages.afterAll, List.foldl_append]
    exact congrArg (·.after (.settled ticket outcome)) reflects.locks

/-- Everything that happens is noted, as long as only requests that were handed in get outcomes, and
no more than there are. -/
theorem noteAll (reflects : ledger.Reflects handed history) {effects : List Effect}
    (known : ∀ told ∈ effects.filterMap Effect.outcome?, told.1 < handed.length)
    (due : ((history ++ effects).filterMap Effect.outcome?).length ≤ handed.length) :
    (effects.foldl note ledger).Reflects handed (history ++ effects) := by
  induction effects generalizing ledger history with
  | nil =>
      rw [List.append_nil]
      exact reflects
  | cons effect rest ih =>
      have whole : history ++ effect :: rest = (history ++ [effect]) ++ rest := by simp
      rw [List.foldl_cons, whole]
      rw [whole] at due
      cases told : effect.outcome? with
      | none =>
          rw [List.filterMap_cons_none told] at known
          exact ih (reflects.noteAside told) known due
      | some settled =>
          rw [List.filterMap_cons_some told] at known
          obtain ⟨first, later⟩ := List.forall_mem_cons.mp known
          refine ih ?_ later due
          cases effect with
          | settled ticket outcome =>
              obtain rfl : (ticket, outcome) = settled := Option.some.inj told
              apply reflects.noteSettled first
              rw [List.filterMap_append, List.filterMap_append, List.length_append,
                List.length_append, List.filterMap_cons_some told, List.length_cons] at due
              omega
          | lockTaken | lockGivenBack | handed | acknowledged | indicated | statusTold
          | measured => simp [Effect.outcome?] at told

/-! ## Sums -/

theorem sum_submitted (reflects : ledger.Reflects handed history) :
    (RequestKind.all.map fun kind => (ledger.outcomesFor kind).submitted).sum =
      handed.length := by
  have all : handed.countP (fun _ => true) = handed.length := by rw [List.countP_true]
  rw [← all]
  refine sum_kinds (fun submission => some submission.kind) (by simp) ?_
  intro kind
  rw [reflects.submitted, List.countP_true, List.countP_eq_length_filter]
  simp

theorem isSome_kindOf (reflects : ledger.Reflects handed history) :
    ∀ told ∈ history.filterMap Effect.outcome?, (kindOf handed told.1).isSome :=
  fun told member => kindOf_isSome.mpr (reflects.known told member)

/-- The outcomes of a class, kind by kind. -/
theorem sum_ofClass (reflects : ledger.Reflects handed history) (result : OutcomeClass) :
    (RequestKind.all.map fun kind => (ledger.outcomesFor kind).ofClass result).sum =
      (history.filterMap Effect.outcome?).countP (·.2.outcomeClass = result) :=
  sum_kinds (fun told : Ticket × Outcome => kindOf handed told.1) reflects.isSome_kindOf
    fun kind => reflects.told kind result

theorem completed (reflects : ledger.Reflects handed history) (kind : RequestKind) :
    (ledger.outcomesFor kind).completed = (toldFor handed history kind).length := by
  rw [Bridge.length_eq_classes, ← reflects.told, ← reflects.told, ← reflects.told,
    ← reflects.told, ← reflects.told]
  rfl

/-- The outcomes, kind by kind. -/
theorem sum_completed (reflects : ledger.Reflects handed history) :
    (RequestKind.all.map fun kind => (ledger.outcomesFor kind).completed).sum =
      (history.filterMap Effect.outcome?).length := by
  have all : (history.filterMap Effect.outcome?).countP (fun _ => true) =
      (history.filterMap Effect.outcome?).length := by rw [List.countP_true]
  rw [← all]
  refine sum_kinds (fun told : Ticket × Outcome => kindOf handed told.1) reflects.isSome_kindOf ?_
  intro kind
  rw [reflects.completed, List.countP_true]
  rfl

/-- When the outcomes are those of all requests, each kind got as many as were handed in. -/
theorem completed_eq_submitted (reflects : ledger.Reflects handed history)
    (tickets : ((history.filterMap Effect.outcome?).map (·.1)).Perm (List.range handed.length))
    (kind : RequestKind) :
    (ledger.outcomesFor kind).completed = (ledger.outcomesFor kind).submitted := by
  have kinds : (List.range handed.length).map (kindOf handed) =
      handed.map fun submission => some submission.kind := by
    apply List.ext_getElem (by simp)
    intro place _ inside
    simp at inside
    simp [kindOf, inside]
  calc (ledger.outcomesFor kind).completed
      = (history.filterMap Effect.outcome?).countP (kindOf handed ·.1 = some kind) := by
        rw [reflects.completed, List.countP_eq_length_filter]
        rfl
    _ = ((history.filterMap Effect.outcome?).map (·.1)).countP (kindOf handed · = some kind) := by
        rw [List.countP_map]
        rfl
    _ = (List.range handed.length).countP (kindOf handed · = some kind) := tickets.countP_eq _
    _ = ((List.range handed.length).map (kindOf handed)).countP (· = some kind) := by
        rw [List.countP_map]
        rfl
    _ = handed.countP (·.kind = kind) := by
        rw [kinds, List.countP_map]
        simp [Function.comp_def]
    _ = (ledger.outcomesFor kind).submitted := (reflects.submitted kind).symm

end Reflects

end Ledger

end ModemLink
