/-
Module: ModemLink.Proofs.Standing
Purpose: What holds of a bridge between any two calls, whatever its surroundings.
Main exports: Standing, standing_new, Standing.amid, Standing.call, Standing.locks_of_ended
-/
import ModemLink.Proofs.LockUsage
import ModemLink.Proofs.Meters
import ModemLink.Proofs.Past
import ModemLink.Proofs.Performance

namespace ModemLink.Bridge

/-!
Requests, totals and locks are accounted for in their own modules, each along a run over one
channel.  On stage the channel is another one in each batch, so here all accounts are taken together
at one moment: they hold of a new bridge, they do not look at channel and serials, and a call keeps
them.
-/

/-- The accounts of a bridge that took some requests: they were told or wait, the totals count what
was done, and recording locks show the holds of both locks.  The counters of references have 32
bits: the holds are known if there was `room` for the requests in every call, and that of the ack
lock if there was also room for its frames. -/
structure Standing {χ : Type} (config : BridgeConfig) (room : Prop) (bridge : Bridge χ)
    (taken : List Submission) : Prop where
  sound : bridge.collision = none
  tally : ∀ ticket, bridge.heard ticket + bridge.waiting ticket = demand taken ticket
  booked : ∀ serials channel, ∃ signs, Booked (new config serials channel) bridge signs
  primary : room → Accounted bridge 0 ∧ Idle bridge ∧ Shown .primary bridge
  ack : room → FrameRoom bridge.history → AckBalanced bridge ∧ Shown .ack bridge ∧
    ∃ starts acks, Guarding config.wakeLockTimeout config.ackWakeLockTimeout bridge
      (DueAfter starts config.wakeLockTimeout) (DueAfter acks config.ackWakeLockTimeout)

section

variable {χ ψ : Type} {config : BridgeConfig} {room : Prop} {bridge : Bridge χ}
  {taken : List Submission}

theorem standing_new (config : BridgeConfig) (room : Prop) (serials : SerialSource) (channel : χ) :
    Standing config room (new config serials channel) [] where
  sound := rfl
  tally _ := rfl
  booked _ _ := ⟨[], rfl, rfl, [], rfl, rfl, rfl, fun timed => ⟨timed, .refl _⟩⟩
  primary _ := ⟨accounted_new config serials channel, idle_new config serials channel, rfl⟩
  ack _ _ := ⟨rfl, rfl, [], [], guarding_new config serials channel _ _⟩

/-- More may be asked of the room. -/
theorem Standing.weaken (standing : Standing config room bridge taken) {more : Prop}
    (fits : more → room) : Standing config more bridge taken where
  sound := standing.sound
  tally := standing.tally
  booked := standing.booked
  primary given := standing.primary (fits given)
  ack given := standing.ack (fits given)

/-- No account looks at the channel or at the serials. -/
theorem Standing.amid (standing : Standing config room bridge taken) (channel : ψ)
    (serials : SerialSource) : Standing config room (bridge.amid channel serials) taken where
  sound := standing.sound
  tally := standing.tally
  booked first _ := by
    obtain ⟨signs, booked⟩ := standing.booked first bridge.channel
    exact ⟨signs, booked.name, booked.detector, booked.effects⟩
  primary given := by
    obtain ⟨account, idle, shown⟩ := standing.primary given
    exact ⟨⟨account.primary, account.ack, account.references, account.balance⟩,
      ⟨idle.primaryId, idle.ackId, idle.own, idle.free⟩, shown⟩
  ack given frames := by
    obtain ⟨balanced, shown, starts, acks, guarding⟩ := standing.ack given frames
    exact ⟨balanced, shown, starts, acks, guarding.primaryId, guarding.ackId,
      guarding.primaryCeiling, guarding.ackCeiling, guarding.frames, guarding.primary,
      guarding.ack⟩

theorem Ended.amid (ended : Ended bridge) (channel : ψ) (serials : SerialSource) :
    Ended (bridge.amid channel serials) :=
  ⟨ended.running, ended.pending, ended.primary, ended.ack, ended.primaryTimer, ended.ackTimer⟩

theorem Ended.onto (ended : Ended bridge) (past : Past) : Ended (bridge.onto past) :=
  ⟨ended.running, ended.pending, ended.primary, ended.ack, ended.primaryTimer, ended.ackTimer⟩

theorem Standing.counted (standing : Standing config room bridge taken) :
    ∃ signs, Counted bridge signs := by
  obtain ⟨signs, booked⟩ := standing.booked (.start 0) bridge.channel
  exact ⟨signs, (balanced_of_booked booked).counted⟩

/-- At the end recording locks show both locks free, and given back as often as taken. -/
theorem Standing.locks_of_ended (standing : Standing config room bridge taken)
    (ended : Ended bridge) (given : room) :
    let usages := LockUsages.afterAll {} bridge.history
    (usages.primary.held = false ∧ usages.primary.acquisitions = usages.primary.releases) ∧
      (FrameRoom bridge.history →
        usages.ack.held = false ∧ usages.ack.acquisitions = usages.ack.releases) := by
  intro usages
  have split : usages = _ := LockUsages.afterAll_eq {} bridge.history
  obtain ⟨account, -, primaryShown⟩ := standing.primary given
  rw [split]
  refine ⟨⟨primaryShown.trans ended.primary, ?_⟩, ?_⟩
  · exact LockUsage.returned (account.of_empty ended.pending).2
  · intro frames
    obtain ⟨balanced, ackShown, -⟩ := standing.ack given frames
    rw [AckBalanced, ended.ack] at balanced
    exact ⟨ackShown.trans ended.ack, LockUsage.returned balanced⟩

/-- A call keeps all accounts. -/
theorem Standing.call [Channel χ] (standing : Standing config room bridge taken) {one : Call χ}
    (sound : (bridge.call one).collision = none)
    (fits : room →
      bridge.pending.size + one.submissions.length + RequestKind.maxRungs < UInt32.size) :
    Standing config room (bridge.call one) (taken ++ one.submissions) := by
  refine ⟨sound, ?_, ?_, ?_, ?_⟩
  · intro ticket
    have tally := (tally_maintained fun _ => 0).call taken sound
      fun ticket => (standing.tally ticket).trans (Nat.zero_add _).symm
    exact (tally ticket).trans (Nat.zero_add _)
  · intro serials channel
    obtain ⟨signs, booked⟩ := standing.booked serials channel
    exact ⟨_, booked.trans (booked_run bridge [one])⟩
  · intro given
    obtain ⟨account, idle, shown⟩ := standing.primary given
    refine ⟨accounted_call sound account (fits given), ?_⟩
    cases made : one.instant? with
    | none =>
        have same : SameHolds bridge (bridge.call one) := sameHolds_call made
        exact ⟨idle.of_same same, shown.of_same same⟩
    | some now =>
        have course := lockCourse_call made sound account (fits given)
        exact ⟨course.idle idle, course.primaryShown idle shown⟩
  · intro given frames
    have here := fits given
    obtain ⟨account, -, -⟩ := standing.primary given
    have earlier := frames.of_prefix (keeps_call sound account here).grows
    obtain ⟨balanced, shown, starts, acked, guarding⟩ := standing.ack given earlier
    have guards := guarding_call sound account here frames guarding
    cases made : one.instant? with
    | none =>
        have same : SameHolds bridge (bridge.call one) := sameHolds_call made
        exact ⟨same.ackBalanced guarding.ackId balanced, shown.of_same same, _, _, guards⟩
    | some now =>
        have course := lockCourse_call made sound account here
        exact ⟨course.ackBalanced guarding frames balanced, course.ackShown guarding frames shown,
          _, _, guards⟩

end

end ModemLink.Bridge
