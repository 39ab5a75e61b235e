/-
Module: ModemLink.Proofs.Deeds
Purpose: The small things that are done about answers, and that their order does not matter.
Main exports:
  unjudged, Reordered, Deed, performDeed, performDeed_comm, performDeeds_perm
-/
import ModemLink.Proofs.Calm

namespace ModemLink

/-!
What a bridge does about an answer falls apart into deeds: the attempt leaves the table, the frame
is acknowledged, a reference to the primary lock is dropped, the caller is told.  Each deed touches
a part of the bridge of its own, so that any two of them commute.  The fault detector takes notice
of the order in which answers come, and is left out here.
-/

/-- Whether this effect is about the fault status. -/
def Effect.isStatus : Effect → Bool
  | statusTold _ _ | measured (.statusChanged _) => true
  | _ => false

/-- What is left of the timer of a lock when a reference is dropped. -/
def WakeLock.timerAfterDrop (lock : WakeLock) (timer : Option LockTimer) (now : Instant) :
    Option LockTimer :=
  if (lock.drop now).1.isHeld then timer else none

theorem PendingTable.erase_comm (table : PendingTable) (serial other : Serial) :
    (table.erase serial).erase other = (table.erase other).erase serial := by
  apply ext_attempts
  simp [List.filter_filter, Bool.and_comm]

theorem Totals.record_comm (totals : Totals) (earlier later : OutcomeClass) :
    (totals.record earlier).record later = (totals.record later).record earlier := by
  cases earlier <;> cases later <;> rfl

theorem Totals.record_acksSent (totals : Totals) (outcome : OutcomeClass) :
    { totals with acksSent := totals.acksSent + 1 }.record outcome =
      { totals.record outcome with acksSent := (totals.record outcome).acksSent + 1 } := by
  cases outcome <;> rfl

theorem Totals.record_staleAnswers (totals : Totals) (outcome : OutcomeClass) :
    { totals with staleAnswers := totals.staleAnswers + 1 }.record outcome =
      { totals.record outcome with staleAnswers := (totals.record outcome).staleAnswers + 1 } := by
  cases outcome <;> rfl

namespace Bridge

variable {χ : Type}

/-! ## The same but for the order -/

/-- What was done so far, but for the news of the fault status. -/
def unjudged (bridge : Bridge χ) : List Effect :=
  bridge.history.filter fun effect => !effect.isStatus

/-- The bridge without its history, and with a detector that has seen nothing. -/
def core (bridge : Bridge χ) : Bridge χ :=
  { bridge with journal := [], detector := .new {} }

/-- Two bridges that did the same, perhaps in another order, and that are the same but for what
their detectors made of it. -/
structure Reordered (first second : Bridge χ) : Prop where
  core : second.core = first.core
  effects : first.unjudged.Perm second.unjudged

namespace Reordered

variable {first second third : Bridge χ}

theorem refl (bridge : Bridge χ) : Reordered bridge bridge :=
  ⟨rfl, .refl _⟩

theorem symm (same : Reordered first second) : Reordered second first :=
  ⟨same.core.symm, same.effects.symm⟩

theorem trans (earlier : Reordered first second) (later : Reordered second third) :
    Reordered first third :=
  ⟨later.core.trans earlier.core, earlier.effects.trans later.effects⟩

/-- The bridges are the same but for their detectors and journals. -/
theorem same (same : Reordered first second) :
    { second with detector := first.detector, journal := first.journal } = first :=
  congrArg (fun bridge : Bridge χ => { bridge with
    detector := first.detector
    journal := first.journal }) same.core

/-- An effect that is no news of the fault status is done as often in both. -/
theorem count (same : Reordered first second) {effect : Effect} (other : effect.isStatus = false) :
    second.history.count effect = first.history.count effect := by
  have counted : ∀ bridge : Bridge χ,
      bridge.history.count effect = bridge.unjudged.count effect := by
    intro bridge
    rw [unjudged, List.count_filter (by simp [other])]
  rw [counted, counted, same.effects.count_eq]

end Reordered

/-! ## Deeds -/

/-- One thing that is done about an answer. -/
inductive Deed where
  /-- The attempt under a serial leaves the table. -/
  | takenOut (serial : Serial)
  /-- The frame is acknowledged. -/
  | acknowledged
  /-- A reference to the primary lock is dropped. -/
  | released
  /-- The caller is told the outcome. -/
  | told (kind : RequestKind) (ticket : Ticket) (outcome : Outcome) (latency : Span)
  /-- Nothing waited for the answer. -/
  | ignored
deriving DecidableEq

section

variable [Channel χ]

/-- What a deed makes of a bridge. -/
def deedState (now : Instant) (bridge : Bridge χ) : Deed → Bridge χ
  | .takenOut serial => { bridge with pending := bridge.pending.erase serial }
  | .acknowledged =>
    match Channel.sendAck bridge.channel with
    | (some _, channel) => { bridge with channel := channel }
    | (none, channel) =>
      { bridge with
        channel := channel
        totals := { bridge.totals with acksSent := bridge.totals.acksSent + 1 }
        locks := (bridge.locks.holdForAck now).2.1
        ackTimer := some (bridge.locks.holdForAck now).1 }
  | .released =>
    { bridge with
      locks := { bridge.locks with primary := (bridge.locks.primary.drop now).1 }
      primaryTimer := bridge.locks.primary.timerAfterDrop bridge.primaryTimer now }
  | .told _ _ outcome _ => { bridge with totals := bridge.totals.record outcome.outcomeClass }
  | .ignored =>
    { bridge with
      totals := { bridge.totals with staleAnswers := bridge.totals.staleAnswers + 1 } }

/-- What a deed does to the world around a bridge. -/
def deedEffects (now : Instant) (bridge : Bridge χ) : Deed → List Effect
  | .takenOut _ => []
  | .acknowledged =>
    match Channel.sendAck bridge.channel with
    | (some _, _) => [.acknowledged false]
    | (none, _) => .acknowledged true :: .measured .ackSent :: (bridge.locks.holdForAck now).2.2
  | .released => (bridge.locks.primary.drop now).2
  | .told kind ticket outcome latency =>
    [.measured (.completed kind outcome.outcomeClass), .measured (.latency kind latency),
      .settled ticket outcome]
  | .ignored => [.measured .staleAnswer]

/-- Do one thing about an answer. -/
def performDeed (now : Instant) (bridge : Bridge χ) (deed : Deed) : Bridge χ :=
  (bridge.deedState now deed).emit (bridge.deedEffects now deed)

/-- Do some things about answers, one after the other. -/
def performDeeds (bridge : Bridge χ) (now : Instant) (deeds : List Deed) : Bridge χ :=
  deeds.foldl (performDeed now) bridge

theorem deedState_of_refused {bridge : Bridge χ} {reason : String} {channel : χ}
    (reply : Channel.sendAck bridge.channel = (some reason, channel)) (now : Instant) :
    bridge.deedState now .acknowledged = { bridge with channel := channel } := by
  simp only [deedState, reply]

theorem deedState_of_accepted {bridge : Bridge χ} {channel : χ}
    (reply : Channel.sendAck bridge.channel = (none, channel)) (now : Instant) :
    bridge.deedState now .acknowledged =
      { bridge with
        channel := channel
        totals := { bridge.totals with acksSent := bridge.totals.acksSent + 1 }
        locks := (bridge.locks.holdForAck now).2.1
        ackTimer := some (bridge.locks.holdForAck now).1 } := by
  simp only [deedState, reply]

theorem journal_deedState (now : Instant) (bridge : Bridge χ) (deed : Deed) :
    (bridge.deedState now deed).journal = bridge.journal := by
  cases deed with
  | takenOut | released | told | ignored => rfl
  | acknowledged =>
      unfold deedState
      rcases Channel.sendAck bridge.channel with ⟨_ | _, channel⟩ <;> rfl

theorem unjudged_performDeed (now : Instant) (bridge : Bridge χ) (deed : Deed) :
    (bridge.performDeed now deed).unjudged =
      bridge.unjudged ++ (bridge.deedEffects now deed).filter fun effect => !effect.isStatus := by
  simp [unjudged, performDeed, history, emit, journal_deedState]

/-- A deed does the same to a bridge whatever it did before and whatever its detector saw. -/
theorem core_performDeed (now : Instant) (bridge : Bridge χ) (deed : Deed) :
    (bridge.performDeed now deed).core = (bridge.core.performDeed now deed).core := by
  cases deed with
  | takenOut | released | told | ignored => rfl
  | acknowledged =>
      show (bridge.deedState now .acknowledged).core =
        (bridge.core.deedState now .acknowledged).core
      have same : bridge.core.channel = bridge.channel := rfl
      unfold deedState
      rw [same]
      rcases Channel.sendAck bridge.channel with ⟨_ | _, channel⟩ <;> rfl

theorem deedEffects_core (now : Instant) (bridge : Bridge χ) (deed : Deed) :
    bridge.core.deedEffects now deed = bridge.deedEffects now deed := by
  cases deed <;> rfl

/-- The same deed in both bridges. -/
theorem Reordered.performDeed {first second : Bridge χ} (same : Reordered first second)
    (now : Instant) (deed : Deed) :
    Reordered (first.performDeed now deed) (second.performDeed now deed) := by
  constructor
  · rw [core_performDeed, same.core, ← core_performDeed]
  · have alike : second.deedEffects now deed = first.deedEffects now deed := by
      rw [← deedEffects_core, same.core, deedEffects_core]
    rw [unjudged_performDeed, unjudged_performDeed, alike]
    exact same.effects.append_right _

theorem Reordered.performDeeds {first second : Bridge χ} (same : Reordered first second)
    (now : Instant) (deeds : List Deed) :
    Reordered (first.performDeeds now deeds) (second.performDeeds now deeds) := by
  induction deeds generalizing first second with
  | nil => exact same
  | cons deed rest ih => exact ih (same.performDeed now deed)

/-! ## Any order -/

/-- An acknowledgement and another deed may change places. -/
theorem core_acknowledged_comm (now : Instant) (bridge : Bridge χ) (deed : Deed) :
    ((bridge.performDeed now .acknowledged).performDeed now deed).core =
      ((bridge.performDeed now deed).performDeed now .acknowledged).core := by
  rcases reply : Channel.sendAck bridge.channel with ⟨_ | reason, channel⟩ <;>
    cases deed <;>
      simp [Bridge.performDeed, emit, core, deedState, reply, Totals.record_acksSent,
        WakeLocks.holdForAck]

theorem core_performDeed_comm (now : Instant) (bridge : Bridge χ) (first second : Deed) :
    ((bridge.performDeed now first).performDeed now second).core =
      ((bridge.performDeed now second).performDeed now first).core := by
  cases first with
  | acknowledged => exact core_acknowledged_comm now bridge second
  | takenOut | released | told | ignored =>
      cases second with
      | acknowledged => exact (core_acknowledged_comm now bridge _).symm
      | takenOut | released | told | ignored =>
          simp [Bridge.performDeed, emit, core, deedState, Totals.record_staleAnswers,
            Totals.record_comm, PendingTable.erase_comm]

/-- What one deed does to the world around does not depend on another. -/
theorem deedEffects_performDeed (now : Instant) (bridge : Bridge χ) {first second : Deed}
    (other : first ≠ second) :
    (bridge.performDeed now first).deedEffects now second = bridge.deedEffects now second := by
  cases second with
  | takenOut | told | ignored => rfl
  | acknowledged =>
      cases first with
      | acknowledged => exact absurd rfl other
      | takenOut | released | told | ignored => rfl
  | released =>
      cases first with
      | released => exact absurd rfl other
      | takenOut | told | ignored => rfl
      | acknowledged =>
          rcases reply : Channel.sendAck bridge.channel with ⟨_ | reason, channel⟩
          · simp only [Bridge.performDeed, emit, deedState_of_accepted reply]
            rfl
          · simp only [Bridge.performDeed, emit, deedState_of_refused reply]
            rfl

/-- Any two deeds may change places. -/
theorem performDeed_comm (now : Instant) (bridge : Bridge χ) (first second : Deed) :
    Reordered ((bridge.performDeed now first).performDeed now second)
      ((bridge.performDeed now second).performDeed now first) := by
  by_cases same : first = second
  · rw [same]
    exact .refl _
  · constructor
    · exact core_performDeed_comm now bridge second first
    · have later := deedEffects_performDeed now bridge same
      have earlier := deedEffects_performDeed now bridge (Ne.symm same)
      simp only [unjudged_performDeed, later, earlier, List.append_assoc]
      exact List.perm_append_comm.append_left _

/-- Deeds may be done in any order. -/
theorem performDeeds_perm (bridge : Bridge χ) (now : Instant) {deeds others : List Deed}
    (perm : deeds.Perm others) :
    Reordered (bridge.performDeeds now deeds) (bridge.performDeeds now others) := by
  induction perm generalizing bridge with
  | nil => exact .refl bridge
  | cons deed perm ih => exact ih (bridge.performDeed now deed)
  | swap first second rest => exact (performDeed_comm now bridge second first).performDeeds now rest
  | trans earlier later first second => exact (first bridge).trans (second bridge)

end

end Bridge

end ModemLink
