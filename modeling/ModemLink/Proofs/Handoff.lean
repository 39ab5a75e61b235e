/-
Module: ModemLink.Proofs.Handoff
Purpose: A refused request hands its hold of the primary lock on to its retry without a gap.
Main exports: Deepened, Issue.deepened, Issue.joins, retry_keeps_lock
-/
import ModemLink.Proofs.HoldBounds
import ModemLink.Proofs.Nesting

namespace ModemLink

/-!
Each attempt that is refused on the way down takes its reference before the one above it drops its
own, so the counter never falls to zero in between and the system sees nothing of it.  What is counted
here is the depth: how many references more there are than at the start.  A request that waits in the
end is one deeper than before its retry was issued, and the reference of the refused attempt goes
last.
-/

theorem WakeLock.deeper_deeper {lock : WakeLock} {depth : Nat}
    (room : lock.count.toNat + depth < UInt32.size) (more : Nat) :
    (lock.deeper depth).deeper more = lock.deeper (depth + more) := by
  have counted := toNat_deeper room
  simp only [deeper] at counted ⊢
  rw [counted, Nat.add_assoc]

namespace Bridge

variable {χ : Type}

/-- All that happened to the primary lock is that there are so many references more, and the system
saw nothing of it. -/
structure Deepened (depth : Nat) (before after : Bridge χ) : Prop where
  primary : after.locks.primary = before.locks.primary.deeper depth
  timer : after.primaryTimer = before.primaryTimer
  history : ∃ effects, after.history = before.history ++ effects ∧
    ∀ effect ∈ effects, effect.lock? ≠ some .primary

namespace Deepened

variable {first middle last before after : Bridge χ} {depth more : Nat}

theorem trans (earlier : Deepened depth first middle) (later : Deepened more middle last)
    (room : first.locks.primary.count.toNat + depth < UInt32.size) :
    Deepened (depth + more) first last := by
  obtain ⟨old, oldHistory, oldElsewhere⟩ := earlier.history
  obtain ⟨new, newHistory, newElsewhere⟩ := later.history
  refine ⟨?_, later.timer.trans earlier.timer, old ++ new, ?_, ?_⟩
  · rw [later.primary, earlier.primary, WakeLock.deeper_deeper room]
  · rw [newHistory, oldHistory, List.append_assoc]
  · intro effect member
    rcases List.mem_append.mp member with member | member
    · exact oldElsewhere effect member
    · exact newElsewhere effect member

theorem of_samePrimary (same : SamePrimary before after)
    (timer : after.primaryTimer = before.primaryTimer) : Deepened 0 before after :=
  ⟨by rw [same.primary, WakeLock.deeper_zero], timer, same.history⟩

theorem of_same (same : SameHolds before after) : Deepened 0 before after := by
  obtain ⟨effects, grown, beside⟩ := same.history
  refine ⟨by rw [same.locks, WakeLock.deeper_zero], same.primaryTimer, effects, grown, ?_⟩
  intro effect member
  simp [(beside effect member).lock]

/-- Steps beside the locks leave the depth as it is. -/
theorem beside (deepened : Deepened depth first middle) (same : SameHolds middle last)
    (room : first.locks.primary.count.toNat + depth < UInt32.size) : Deepened depth first last :=
  deepened.trans (of_same same) room

theorem hasDepth (deepened : Deepened depth before after) (has : before.HasDepth (depth + more)) :
    after.HasDepth more := by
  have less := has.mono (Nat.le_add_right depth more)
  have room := has.room
  rw [← Nat.add_assoc, ← WakeLock.toNat_deeper less.room] at room
  refine ⟨?_, ?_⟩
  · rw [deepened.primary]
    exact WakeLock.deeper_ne_zero less.held less.room
  · rw [deepened.primary]
    exact room

/-- While there are references from before, dropping one does not give the lock back. -/
theorem released (deepened : Deepened (depth + 1) before after)
    (has : before.HasDepth (depth + 1)) (now : Instant) :
    Deepened depth before (after.releaseLock now) := by
  have dropped : after.locks.primary.drop now = (before.locks.primary.deeper depth, []) := by
    rw [deepened.primary]
    exact WakeLock.drop_deeper has.held has.room now
  have fewer := has.mono (Nat.le_succ depth)
  have held : (before.locks.primary.deeper depth).isHeld = true := by
    have nonzero := WakeLock.deeper_ne_zero fewer.held fewer.room
    exact decide_eq_true (UInt32.pos_iff_ne_zero.mpr nonzero)
  obtain ⟨effects, grown, elsewhere⟩ := deepened.history
  constructor
  · exact congrArg Prod.fst dropped
  · have timer : (after.releaseLock now).primaryTimer =
        if (after.locks.primary.drop now).1.isHeld then after.primaryTimer else none := rfl
    rw [timer, dropped, held]
    exact deepened.timer
  · have quiet : (after.releaseLock now).history =
        after.history ++ (after.locks.primary.drop now).2 := history_of_journal rfl
    rw [dropped, List.append_nil] at quiet
    exact ⟨effects, quiet.trans grown, elsewhere⟩

end Deepened

theorem primaryTimer_sendAckIf [Channel χ] (bridge : Bridge χ) (asked : Bool) (now : Instant)
    (ack : bridge.locks.ack.id = .ack) :
    (bridge.sendAckIf asked now).primaryTimer = bridge.primaryTimer := by
  unfold sendAckIf
  split
  · rcases reply : Channel.sendAck bridge.channel with ⟨_ | reason, channel⟩
    · have own : (bridge.locks.holdForAck now).1.lock = .ack := (WakeLock.id_take _ now).trans ack
      rw [sendAck_of_accepted reply, schedule_ack _ own]
      rfl
    · rw [sendAck_of_refused reply]
      rfl
  · rfl

/-- Taking an answer in does not concern the primary lock. -/
theorem deepened_answered [Channel χ] (bridge : Bridge χ) (attempt : Attempt)
    (header : AnswerHeader) (now : Instant) (ack : bridge.locks.ack.id = .ack) :
    Deepened 0 bridge (bridge.answered attempt header now) := by
  let taken : Bridge χ := { bridge with pending := bridge.pending.erase header.serial }
  have out : SamePrimary bridge taken := ⟨rfl, rfl, [], (List.append_nil _).symm, by simp⟩
  have received := out.trans (samePrimary_sendAckIf taken header.type.ackExpected now ack)
  have seen := sameHolds_withDetector (taken.sendAckIf header.type.ackExpected now)
    ((taken.sendAckIf header.type.ackExpected now).detector.onAnswer attempt.kind header.code now)
  apply Deepened.of_samePrimary (received.trans (samePrimary_withDetector _ _))
  exact seen.primaryTimer.trans (primaryTimer_sendAckIf taken header.type.ackExpected now ack)

/-! ## Requests -/

/-- An attempt that is handed over while the lock is held only counts one reference more. -/
theorem deepened_handOver {bridge : Bridge χ} (has : bridge.HasDepth 1) (attempt : Attempt)
    (reply : SendReply) (channel : χ) (now : Instant) :
    Deepened 1 bridge (bridge.handOver attempt reply channel now) := by
  unfold handOver
  rw [acquireLock_of_hasDepth (has.mono (Nat.zero_le 1))]
  refine ⟨rfl, rfl, [.handed attempt.outbound reply], history_of_journal rfl, ?_⟩
  simp [Effect.lock?]

/-- The reference of an attempt that fails at once goes with it. -/
theorem Deepened.finished {before after : Bridge χ} {depth : Nat}
    (deepened : Deepened (depth + 1) before after) (has : before.HasDepth (depth + 1))
    (attempt : Attempt) (outcome : Outcome) (now : Instant) :
    Deepened depth before (after.finish attempt.holding outcome now) := by
  have told : SameHolds (after.releaseLock now) (after.finish attempt.holding outcome now) :=
    (sameHolds_recordOutcome _ attempt.kind outcome (attempt.latency now)).trans
      (sameHolds_emit_one _ ⟨rfl, by simp⟩)
  exact (deepened.released has now).beside told (has.mono (Nat.le_succ depth)).room

variable [Channel χ]

/-- However many versions are refused on the way down, in the end the lock is as deep as the table
grew. -/
theorem Issue.deepened {bridge after : Bridge χ} {attempt : Attempt} {now : Instant}
    {trace : List (Attempt × SendReply)} (issued : Issue now bridge attempt trace after)
    (has : bridge.HasDepth (attempt.kind.ladder.rungsBelow attempt.version + 1)) :
    ∃ depth, after.pending.size = bridge.pending.size + depth ∧ depth ≤ 1 ∧
      Deepened depth bridge after := by
  induction issued with
  | @accepted bridge attempt pending channel spoken inserted replied =>
      have one := has.mono (Nat.le_add_left 1 _)
      have handed := deepened_handOver one attempt .accepted channel now
      refine ⟨1, ?_, Nat.le_refl 1, handed.beside ?_ one.room⟩
      · show pending.attempts.length = bridge.pending.attempts.length + 1
        rw [PendingTable.attempts_insert? inserted]
        rfl
      · refine ⟨rfl, rfl, rfl, _, history_of_journal rfl, ?_⟩
        intro effect member
        rw [List.mem_singleton.mp member]
        exact ⟨rfl, by simp⟩
  | @unavailable bridge attempt pending channel reason spoken inserted replied =>
      have one := has.mono (Nat.le_add_left 1 _)
      have handed := deepened_handOver one attempt (.unavailable reason) channel now
      refine ⟨0, ?_, Nat.zero_le 1, handed.finished one attempt _ now⟩
      rw [(settles_finish _ attempt.holding _ now).pending, pending_handOver, Nat.add_zero]
  | @exhausted bridge attempt pending channel spoken inserted replied lowest =>
      have one := has.mono (Nat.le_add_left 1 _)
      have handed := deepened_handOver one attempt .versionRefused channel now
      have lowered : SameHolds (bridge.handOver attempt .versionRefused channel now)
          ((bridge.handOver attempt .versionRefused channel now).lowered attempt.kind
            attempt.version) := .of_eq rfl rfl rfl rfl
      refine ⟨0, ?_, Nat.zero_le 1, (handed.beside lowered one.room).finished one attempt _ now⟩
      rw [(settles_finish _ attempt.holding _ now).pending, pending_lowered, pending_handOver,
        Nat.add_zero]
  | @retried bridge after attempt pending channel version trace spoken inserted replied lower rest
      ih =>
      have one := has.mono (Nat.le_add_left 1 _)
      obtain ⟨rung, below⟩ := VersionTable.next_of_current spoken lower
      have fewer := Ladder.rungsBelow_lt below rung
      have retried : Deepened 1 bridge ((bridge.handOver attempt .versionRefused channel
          now).retrying attempt.kind attempt.version version) :=
        (deepened_handOver one attempt .versionRefused channel now).beside
          (sameHolds_retrying _ attempt.kind attempt.version version) one.room
      obtain ⟨depth, size, atMost, inner⟩ := ih (retried.hasDepth (has.mono (by
        show 1 + (attempt.kind.ladder.rungsBelow version + 1) ≤ _
        omega)))
      refine ⟨depth, ?_, atMost, ?_⟩
      · rw [(sameRequests_releaseLock after now).pending, size, pending_retrying, pending_handOver]
      · have deeper := retried.trans inner one.room
        rw [Nat.add_comm] at deeper
        exact deeper.released (has.mono (by omega)) now

/-- Of what waits after an answer only the retry of the answered request is new. -/
theorem retry_of_new {bridge : Bridge χ} {header : AnswerHeader} {payload : Payload}
    {attempt retry : Attempt} {now : Instant}
    (sound : (bridge.onAnswer header payload now).collision = none)
    (refused : header.code.isNotSupported = true)
    (waiting : bridge.pending.find? header.serial = some attempt)
    (waits : retry ∈ (bridge.onAnswer header payload now).pending.attempts)
    (new : retry ∉ (bridge.pending.erase header.serial).attempts) :
    ∃ version trace after,
      (bridge.answered attempt header now).versions.next attempt.kind attempt.version =
        some version ∧
      Issue now ((bridge.answered attempt header now).retrying attempt.kind attempt.version version)
        (attempt.reissue (bridge.answered attempt header now).serials.take.1 version now) trace
        after ∧
      bridge.onAnswer header payload now = after.releaseIf attempt.holdsLock now ∧
      attempt.SameRequest retry ∧ retry.holdsLock = true ∧
      after.pending.attempts = retry :: (bridge.pending.erase header.serial).attempts := by
  rw [onAnswer_of_waiting waiting, if_pos refused] at sound waits ⊢
  have table := pending_answered bridge attempt header now
  obtain ⟨lowest, course⟩ | ⟨version, trace, after, lower, issued, course⟩ := fallBack_cases sound
  · rw [course, (settles_finish _ attempt _ now).pending, pending_lowered, table] at waits
    exact absurd waits new
  · refine ⟨version, trace, after, lower, issued, course, ?_⟩
    rw [course, (sameRequests_releaseIf after attempt.holdsLock now).pending] at waits
    have ending := issued.ends.ending
    rw [pending_retrying, table] at ending
    obtain ⟨last, same, -, inserted, -⟩ | ⟨last, reason, -, -, out, -⟩ | ⟨last, -, -, out, -⟩ :=
      ending
    · rw [PendingTable.attempts_insert? inserted] at waits ⊢
      rcases List.mem_cons.mp waits with rfl | waited
      · exact ⟨⟨same.ticket, same.kind, same.payload, same.origin⟩, rfl, rfl⟩
      · exact absurd waited new
    · rw [out] at waits
      exact absurd waits new
    · rw [out] at waits
      exact absurd waits new

/-- A retry that takes over from an attempt with a reference: the lock is at the end as it was at the
start. -/
theorem deepened_onAnswer {bridge : Bridge χ} {header : AnswerHeader} {payload : Payload}
    {attempt retry : Attempt} {now : Instant} (account : Accounted bridge 0)
    (room : bridge.pending.size + RequestKind.maxRungs < UInt32.size)
    (sound : (bridge.onAnswer header payload now).collision = none)
    (refused : header.code.isNotSupported = true)
    (waiting : bridge.pending.find? header.serial = some attempt)
    (holds : attempt.holdsLock = true)
    (waits : retry ∈ (bridge.onAnswer header payload now).pending.attempts)
    (new : retry ∉ (bridge.pending.erase header.serial).attempts) :
    Deepened 0 bridge (bridge.onAnswer header payload now) := by
  obtain ⟨version, trace, after, lower, issued, course, -, -, joined⟩ :=
    retry_of_new sound refused waiting waits new
  have has : bridge.HasDepth RequestKind.maxRungs := by
    have owned := PendingTable.lockHolders_erase waiting
    rw [holds] at owned
    have holders := bridge.pending.lockHolders_le_size
    have references := account.references
    refine ⟨?_, by omega⟩
    rw [ne_eq, WakeLock.count_eq_zero_iff, references, owned]
    exact Nat.succ_ne_zero _
  have rungs := VersionTable.rungsBelow_next_lt_maxRungs lower
  have retrying : Deepened 0 bridge
      ((bridge.answered attempt header now).retrying attempt.kind attempt.version version) :=
    (deepened_answered bridge attempt header now account.ack).beside
      (sameHolds_retrying _ attempt.kind attempt.version version) (has.mono (Nat.zero_le _)).room
  obtain ⟨depth, size, -, onward⟩ := issued.deepened (retrying.hasDepth (has.mono (by
    show 0 + (attempt.kind.ladder.rungsBelow version + 1) ≤ _
    omega)))
  have one : depth = 1 := by
    rw [pending_retrying, pending_answered, PendingTable.size, joined, List.length_cons] at size
    exact (Nat.add_left_cancel size).symm
  subst one
  rw [course, holds]
  exact (retrying.trans onward (has.mono (Nat.zero_le _)).room).released (has.mono (by decide)) now

/-- A fallback never lets the primary lock go.  When an attempt with a reference is refused and its
request waits afterwards, the lock is what it was before, with its timer, and the system was asked
neither to take it nor to take it back.  When the attempt had lost its reference, its retry has one,
and the lock one more than before. -/
theorem retry_keeps_lock (config : BridgeConfig) (serials : SerialSource) (channel : χ)
    (calls : List (Call χ)) (bridge after : Bridge χ) (header : AnswerHeader) (payload : Payload)
    (now : Instant) (attempt retry : Attempt)
    (reached : bridge = (new config serials channel).run calls)
    (answered : after = bridge.call (.event (.answer header payload) now))
    (sound : after.collision = none)
    (room : HasRoom (new config serials channel)
      (calls ++ [.event (.answer header payload) now]))
    (refused : header.code.isNotSupported = true)
    (waiting : bridge.pending.find? header.serial = some attempt)
    (waits : retry ∈ after.pending.attempts)
    (fresh : retry ∉ (bridge.pending.erase header.serial).attempts) :
    attempt.SameRequest retry ∧ retry.holdsLock = true ∧
    (attempt.holdsLock = true →
      after.locks.primary = bridge.locks.primary ∧ after.primaryTimer = bridge.primaryTimer ∧
      ∀ effect ∈ bridge.doneBy (.event (.answer header payload) now),
        effect ≠ .lockTaken .primary ∧ effect ≠ .lockGivenBack .primary) ∧
    (attempt.holdsLock = false →
      after.locks.primary.count.toNat = bridge.locks.primary.count.toNat + 1) := by
  subst answered
  have soundBefore := collision_of_call sound
  have handled : bridge.call (.event (.answer header payload) now) =
      bridge.onAnswer header payload now := handle_of_sound soundBefore now _
  obtain ⟨roomBefore, spare, -⟩ := room.split
  rw [← reached] at spare
  have account : Accounted bridge 0 := by
    rw [reached] at soundBefore ⊢
    exact accounted_run soundBefore (accounted_new config serials channel) roomBefore
  have accountAfter := accounted_call sound account spare
  rw [handled] at sound waits accountAfter ⊢
  obtain ⟨version, trace, issuedTo, -, -, course, same, holding, joined⟩ :=
    retry_of_new sound refused waiting waits fresh
  refine ⟨same, holding, fun holds => ?_, fun lost => ?_⟩
  · have kept := deepened_onAnswer account (Nat.lt_of_le_of_lt (by omega) spare) sound refused
      waiting holds waits fresh
    obtain ⟨effects, grown, elsewhere⟩ := kept.history
    refine ⟨kept.primary.trans (WakeLock.deeper_zero _), kept.timer, ?_⟩
    rw [doneBy_of_grown (handled ▸ grown)]
    intro effect member
    have other := elsewhere effect member
    constructor
    · rintro rfl
      exact other rfl
    · rintro rfl
      exact other rfl
  · have table : (bridge.onAnswer header payload now).pending.attempts =
        retry :: (bridge.pending.erase header.serial).attempts := by
      rw [course, (sameRequests_releaseIf _ attempt.holdsLock now).pending, joined]
    have owners : (bridge.onAnswer header payload now).pending.lockHolders =
        (bridge.pending.erase header.serial).lockHolders + 1 := by
      rw [PendingTable.lockHolders, table, List.countP_cons_of_pos holding]
      rfl
    have owned := PendingTable.lockHolders_erase waiting
    rw [lost] at owned
    have references := account.references
    have referencesAfter := accountAfter.references
    rw [owners] at referencesAfter
    rw [owned] at references
    exact referencesAfter.trans (congrArg (· + 1) references.symm)

/-- Two versions are refused by the channel on the way down, once while the lock is held and once
after it was taken away by a timeout. -/
theorem retry_keeps_lock_down_three_rungs :
    let channel : RecordingChannel :=
      { refused := [(.getSimStatus, ⟨1, 5⟩), (.getSimStatus, ⟨1, 4⟩)] }
    let submit : Call RecordingChannel :=
      .event (.submit ⟨⟨1⟩, .getSimStatus, .empty, .unknown, 0, 0⟩) 0
    let bridge := (new {} (.start 1) channel).run [.serialTaken, submit]
    let late := (new {} (.start 1) channel).run [.serialTaken, submit, .timers 60000000]
    let answer (now : Instant) : Call RecordingChannel :=
      .event (.answer (.plain ⟨1⟩ .getSimStatus .requestNotSupported) .empty) now
    ((bridge.call (answer 7)).locks.primary = bridge.locks.primary ∧
      (bridge.call (answer 7)).pending.attempts.map Attempt.number = [4]) ∧
    late.locks.primary.count = 0 ∧
      (late.call (answer 60000007)).locks.primary.count.toNat = 0 + 1 := by
  intro channel submit bridge late answer
  have held := retry_keeps_lock {} (.start 1) channel [.serialTaken, submit] bridge
    (bridge.call (answer 7)) (.plain ⟨1⟩ .getSimStatus .requestNotSupported) .empty 7
    ⟨⟨1⟩, .getSimStatus, ⟨1, 6⟩, .empty, .unknown, 0, 0, 0, 1, true, false⟩
    ⟨⟨4⟩, .getSimStatus, ⟨1, 2⟩, .empty, .unknown, 0, 7, 0, 4, true, false⟩ rfl rfl
    (by decide +kernel) ⟨by decide +kernel, by decide +kernel, by decide +kernel, trivial⟩
    (by decide) (by decide +kernel) (by decide +kernel) (by decide +kernel)
  have lost := retry_keeps_lock {} (.start 1) channel [.serialTaken, submit, .timers 60000000]
    late (late.call (answer 60000007)) (.plain ⟨1⟩ .getSimStatus .requestNotSupported) .empty
    60000007
    ⟨⟨1⟩, .getSimStatus, ⟨1, 6⟩, .empty, .unknown, 0, 0, 0, 1, false, false⟩
    ⟨⟨4⟩, .getSimStatus, ⟨1, 2⟩, .empty, .unknown, 0, 60000007, 0, 4, true, false⟩ rfl rfl
    (by decide +kernel)
    ⟨by decide +kernel, by decide +kernel, by decide +kernel, by decide +kernel, trivial⟩
    (by decide) (by decide +kernel) (by decide +kernel) (by decide +kernel)
  have free : late.locks.primary.count = 0 := by decide +kernel
  have one := lost.2.2.2 rfl
  rw [free] at one
  exact ⟨⟨(held.2.2.1 rfl).1, by decide +kernel⟩, free, one⟩

end Bridge

end ModemLink
