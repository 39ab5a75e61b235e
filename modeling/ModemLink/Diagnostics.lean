/-
Module: ModemLink.Diagnostics
Purpose: Running totals of a bridge, and a view of its state at one instant.
Main exports: Totals, Totals.record, Totals.completed, Diagnostics
-/
import ModemLink.FaultDetector

namespace ModemLink

/-- How often each thing happened since the bridge began. -/
structure Totals where
  sent : Nat := 0
  completedOk : Nat := 0
  rejected : Nat := 0
  unsupported : Nat := 0
  timedOut : Nat := 0
  channelUnavailable : Nat := 0
  fallbacks : Nat := 0
  staleAnswers : Nat := 0
  acksSent : Nat := 0
  indications : Nat := 0
  lockTimeouts : Nat := 0
deriving DecidableEq, Repr, Inhabited

namespace Totals

/-- Count one outcome. -/
def record (totals : Totals) : OutcomeClass → Totals
  | .ok => { totals with completedOk := totals.completedOk + 1 }
  | .rejected => { totals with rejected := totals.rejected + 1 }
  | .unsupported => { totals with unsupported := totals.unsupported + 1 }
  | .timedOut => { totals with timedOut := totals.timedOut + 1 }
  | .channelUnavailable => { totals with channelUnavailable := totals.channelUnavailable + 1 }

/-- How many outcomes of a class were counted. -/
def ofClass (totals : Totals) : OutcomeClass → Nat
  | .ok => totals.completedOk
  | .rejected => totals.rejected
  | .unsupported => totals.unsupported
  | .timedOut => totals.timedOut
  | .channelUnavailable => totals.channelUnavailable

/-- How many outcomes were counted. -/
def completed (totals : Totals) : Nat :=
  totals.completedOk + totals.rejected + totals.unsupported + totals.timedOut
    + totals.channelUnavailable

@[simp] theorem completed_record (totals : Totals) (outcome : OutcomeClass) :
    (totals.record outcome).completed = totals.completed + 1 := by
  cases outcome <;> simp only [record, completed] <;> omega

theorem ofClass_record (totals : Totals) (outcome other : OutcomeClass) :
    (totals.record outcome).ofClass other =
      totals.ofClass other + if other = outcome then 1 else 0 := by
  cases outcome <;> cases other <;> rfl

end Totals

/-- A bridge at one instant, as it shows itself to an operator. -/
structure Diagnostics where
  instanceName : String := ""
  pending : Nat := 0
  oldestPendingAge : Option Span := none
  primaryHeld : Bool := false
  primaryReferences : UInt32 := 0
  primaryHeldFor : Option Span := none
  ackHeld : Bool := false
  versionCap : Option Version := none
  /-- Empty in a view of no bridge at all. -/
  versions : List (RequestKind × Option Version) := []
  faults : FaultSnapshot := {}
  totals : Totals := {}
deriving DecidableEq, Repr, Inhabited

end ModemLink
