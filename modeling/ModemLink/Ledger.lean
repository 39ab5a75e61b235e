/-
Module: ModemLink.Ledger
Purpose: Accounts of the requests of a scenario, kept from what a bridge does.
Main exports: KindOutcomes, Ledger, Ledger.submitted, Ledger.note
-/
import ModemLink.Diagnostics
import ModemLink.Journal

namespace ModemLink

/-- What became of the requests of one kind. -/
structure KindOutcomes where
  submitted : Nat := 0
  ok : Nat := 0
  rejected : Nat := 0
  unsupported : Nat := 0
  timedOut : Nat := 0
  channelUnavailable : Nat := 0
deriving DecidableEq, Repr, Inhabited

namespace KindOutcomes

/-- Count one outcome. -/
def record (outcomes : KindOutcomes) : OutcomeClass → KindOutcomes
  | .ok => { outcomes with ok := outcomes.ok + 1 }
  | .rejected => { outcomes with rejected := outcomes.rejected + 1 }
  | .unsupported => { outcomes with unsupported := outcomes.unsupported + 1 }
  | .timedOut => { outcomes with timedOut := outcomes.timedOut + 1 }
  | .channelUnavailable =>
    { outcomes with channelUnavailable := outcomes.channelUnavailable + 1 }

/-- How many requests have an outcome. -/
def completed (outcomes : KindOutcomes) : Nat :=
  outcomes.ok + outcomes.rejected + outcomes.unsupported + outcomes.timedOut
    + outcomes.channelUnavailable

@[simp] theorem completed_record (outcomes : KindOutcomes) (outcome : OutcomeClass) :
    (outcomes.record outcome).completed = outcomes.completed + 1 := by
  cases outcome <;> simp only [record, completed] <;> omega

end KindOutcomes

/-- The accounts of a scenario. -/
structure Ledger where
  /-- The kind of the request behind each ticket; tickets count from zero. -/
  kinds : Array RequestKind := #[]
  /-- The kinds that were handed in. -/
  outcomes : RequestKind.Table (Option KindOutcomes) := .const none
  /-- How many requests have no outcome yet. -/
  outstanding : Nat := 0
  /-- Changes of the fault status, newest first. -/
  statusChanges : List FaultStatus := []
  /-- How many indications were delivered. -/
  indications : Nat := 0
  locks : LockUsages := {}
deriving Repr

namespace Ledger

/-- The ticket of the next request. -/
def nextTicket (ledger : Ledger) : Ticket :=
  ledger.kinds.size

/-- What became of the requests of a kind. -/
def outcomesFor (ledger : Ledger) (kind : RequestKind) : KindOutcomes :=
  (ledger.outcomes.get kind).getD {}

/-- Enter a request under the next ticket. -/
def submitted (ledger : Ledger) (kind : RequestKind) : Ledger :=
  let outcomes := ledger.outcomesFor kind
  { ledger with
    kinds := ledger.kinds.push kind
    outcomes := ledger.outcomes.set kind
      (some { outcomes with submitted := outcomes.submitted + 1 })
    outstanding := ledger.outstanding + 1 }

/-- Enter the outcome of a request. -/
def completed (ledger : Ledger) (kind : RequestKind) (outcome : OutcomeClass) : Ledger :=
  { ledger with
    outcomes := ledger.outcomes.set kind (some ((ledger.outcomesFor kind).record outcome))
    outstanding := ledger.outstanding - 1 }

/-- Enter what an effect of the bridge brings. -/
def note (ledger : Ledger) (effect : Effect) : Ledger :=
  let ledger := { ledger with locks := ledger.locks.after effect }
  match effect with
  | .settled ticket outcome =>
    match ledger.kinds[ticket]? with
    | some kind => ledger.completed kind outcome.outcomeClass
    | none => ledger
  | .statusTold _ status => { ledger with statusChanges := status :: ledger.statusChanges }
  | .indicated _ _ => { ledger with indications := ledger.indications + 1 }
  | _ => ledger

end Ledger

end ModemLink
