/-
Module: ModemLink.Proofs.References
Purpose: References to the primary wake lock, the attempts that own them, and the system's hold.
Main exports: Moves, SamePrimary, Accounted, Issue.accounted, accounted_react, accounted_run
-/
import ModemLink.Proofs.Rungs
import ModemLink.Proofs.Run

namespace ModemLink

/-!
Each reference to the primary lock is owned by one attempt: by one in the table, by one in hand, or
by one that was given up for a retry, whose reference is dropped after the retry took its own.
`Accounted bridge inHand` says that the counter is the number of owners in the table and `inHand`
others, and that the lock was taken from the system once more than given back if the counter is
positive.  Between calls nothing is in hand.
-/

/-! ## One lock -/

namespace WakeLock

/-- From `before` to `after` the system's hold of a lock changes as often as `effects` say. -/
structure Moves (before after : WakeLock) (effects : List Effect) : Prop where
  id : after.id = before.id
  balance : effects.count (.lockTaken before.id) + before.isHeld.toNat =
    effects.count (.lockGivenBack before.id) + after.isHeld.toNat

theorem Moves.refl (lock : WakeLock) : Moves lock lock [] :=
  ⟨rfl, rfl⟩

theorem isHeld_iff {lock : WakeLock} : lock.isHeld = true ↔ 0 < lock.count.toNat := by
  simp only [isHeld, decide_eq_true_eq, UInt32.lt_iff_toNat_lt, UInt32.toNat_zero]

theorem isHeld_toNat (lock : WakeLock) :
    lock.isHeld.toNat = if lock.count.toNat = 0 then 0 else 1 := by
  by_cases free : lock.count.toNat = 0
  · have notHeld : lock.isHeld = false := by
      rw [← Bool.not_eq_true, isHeld_iff]
      omega
    rw [notHeld, if_pos free]
    rfl
  · have held : lock.isHeld = true := isHeld_iff.mpr (by omega)
    rw [held, if_neg free]
    rfl

theorem count_eq_zero_iff {lock : WakeLock} : lock.count = 0 ↔ lock.count.toNat = 0 := by
  rw [← UInt32.toNat_inj, UInt32.toNat_zero]

/-- Taking a lock adds one reference, free or held, in the arithmetic of its counter. -/
theorem count_take_eq_add (lock : WakeLock) (now : Instant) :
    (lock.take now).1.count = lock.count + 1 := by
  unfold take
  split <;> rfl

theorem count_take {lock : WakeLock} (now : Instant)
    (room : lock.count.toNat + 1 < UInt32.size) :
    (lock.take now).1.count.toNat = lock.count.toNat + 1 := by
  rw [count_take_eq_add, UInt32.toNat_add, UInt32.toNat_one]
  exact Nat.mod_eq_of_lt room

theorem not_givenBack_take (lock : WakeLock) (now : Instant) (id : LockId) :
    .lockGivenBack id ∉ (lock.take now).2 := by
  unfold take
  split <;> simp

theorem moves_take {lock : WakeLock} (now : Instant)
    (room : lock.count.toNat + 1 < UInt32.size) :
    Moves lock (lock.take now).1 (lock.take now).2 := by
  have taken := count_take now room
  have held : (lock.take now).1.isHeld.toNat = 1 := by
    rw [isHeld_toNat, taken, if_neg (by omega)]
  refine ⟨by unfold take; split <;> rfl, ?_⟩
  rw [held, isHeld_toNat]
  by_cases free : lock.count = 0
  · rw [if_pos (count_eq_zero_iff.mp free)]
    simp [take, free]
  · rw [if_neg (mt count_eq_zero_iff.mpr free)]
    simp [take, free]

theorem moves_giveBack {lock : WakeLock} (now : Instant) (held : lock.count ≠ 0) :
    Moves lock (lock.giveBack now).1 (lock.giveBack now).2 := by
  refine ⟨rfl, ?_⟩
  rw [isHeld_toNat, if_neg (mt count_eq_zero_iff.mpr held)]
  cases since : lock.heldSince with
  | none => simp [giveBack, since, isHeld]
  | some start => simp [giveBack, since, isHeld]

theorem count_drop {lock : WakeLock} {left : Nat} (now : Instant)
    (references : lock.count.toNat = left + 1) :
    (lock.drop now).1.count.toNat = left := by
  have notFree : ¬lock.count = 0 := by
    rw [count_eq_zero_iff]
    omega
  by_cases last : lock.count = 1
  · have single : lock.count.toNat = 1 := by rw [last]; rfl
    have none : left = 0 := by omega
    simp [drop, last, giveBack, none]
  · have one : (1 : UInt32) ≤ lock.count := by
      rw [UInt32.le_iff_toNat_le, references]
      exact Nat.le_add_left 1 left
    simp only [drop, notFree, last, if_false]
    rw [UInt32.toNat_sub_of_le _ _ one, references]
    rfl

theorem moves_drop {lock : WakeLock} {left : Nat} (now : Instant)
    (references : lock.count.toNat = left + 1) :
    Moves lock (lock.drop now).1 (lock.drop now).2 := by
  have notFree : ¬lock.count = 0 := by
    rw [count_eq_zero_iff]
    omega
  by_cases last : lock.count = 1
  · have gives : lock.drop now = lock.giveBack now := by
      unfold drop
      rw [if_neg notFree, if_pos last]
    rw [gives]
    exact moves_giveBack now notFree
  · have remaining := count_drop now references
    have several : left ≠ 0 := by
      rintro rfl
      exact last (UInt32.toNat_inj.mp references)
    refine ⟨by simp [drop, notFree, last], ?_⟩
    rw [isHeld_toNat, isHeld_toNat, remaining, if_neg (by omega), if_neg several]
    simp [drop, notFree, last]

theorem moves_clear (lock : WakeLock) (now : Instant) :
    Moves lock (lock.clear now).1 (lock.clear now).2 := by
  unfold clear
  split
  · exact .refl lock
  · rename_i held
    exact moves_giveBack now held

theorem count_clear (lock : WakeLock) (now : Instant) : (lock.clear now).1.count = 0 := by
  unfold clear
  split
  · assumption
  · rfl

/-- A lock that is taken away was held, with the references that are told. -/
theorem expire_eq_some {lock after : WakeLock} {generation : UInt64} {now : Instant}
    {outstanding : UInt32} {effects : List Effect}
    (expired : lock.expire generation now = (some outstanding, after, effects)) :
    outstanding = lock.count ∧ after.count = 0 ∧ Moves lock after effects := by
  unfold expire at expired
  split at expired
  · rename_i honoured
    cases expired
    exact ⟨rfl, rfl, moves_giveBack now honoured.2⟩
  · simp at expired

/-- Effects that are not about the hold of a lock change nothing about its moves. -/
theorem Moves.append {before after : WakeLock} {effects more : List Effect}
    (moves : Moves before after effects) (taken : .lockTaken before.id ∉ more)
    (givenBack : .lockGivenBack before.id ∉ more) : Moves before after (effects ++ more) := by
  refine ⟨moves.id, ?_⟩
  rw [List.count_append, List.count_append, List.count_eq_zero.mpr taken,
    List.count_eq_zero.mpr givenBack]
  exact moves.balance

end WakeLock

namespace WakeLocks

/-- A timeout takes the primary lock away with all its references. -/
theorem onTimer_eq_timedOut {locks after : WakeLocks} {timer : LockTimer} {now : Instant}
    {outstanding : UInt32} {effects : List Effect}
    (judged : locks.onTimer timer now = (.timedOut outstanding, after, effects)) :
    outstanding = locks.primary.count ∧ after.primary.count = 0 ∧ after.ack = locks.ack ∧
      WakeLock.Moves locks.primary after.primary effects ∧
      .measured (.lockTimedOut .primary) ∈ effects := by
  unfold onTimer at judged
  split at judged
  · split at judged
    · rename_i told primary taken expired
      cases judged
      obtain ⟨counted, free, moves⟩ := WakeLock.expire_eq_some expired
      exact ⟨counted, free, rfl, moves.append (by simp) (by simp), by simp⟩
    · simp at judged
  · split at judged <;> simp at judged

/-- A timer without a timeout is about the ack lock, or about nothing. -/
theorem onTimer_of_not_timedOut {locks after : WakeLocks} {timer : LockTimer} {now : Instant}
    {expiry : LockExpiry} {effects : List Effect}
    (judged : locks.onTimer timer now = (expiry, after, effects))
    (kept : ∀ outstanding, expiry ≠ .timedOut outstanding) :
    after.primary = locks.primary ∧ after.ack.id = locks.ack.id ∧
      ∀ effect ∈ effects, effect.lock? = some locks.ack.id := by
  unfold onTimer at judged
  split at judged
  · split at judged
    · cases judged
      exact absurd rfl (kept _)
    · cases judged
      exact ⟨rfl, rfl, by simp⟩
  · split at judged
    · rename_i told ack taken expired
      cases judged
      have about : ∀ effect ∈ (locks.ack.expire timer.generation now).2.2,
          effect.lock? = some locks.ack.id :=
        fun _ member => WakeLock.lock_of_mem_expire member
      rw [expired] at about
      exact ⟨rfl, (WakeLock.expire_eq_some expired).2.2.id, about⟩
    · cases judged
      exact ⟨rfl, rfl, by simp⟩

end WakeLocks

/-! ## Owners in the table -/

namespace PendingTable

theorem lockHolders_le_size (table : PendingTable) : table.lockHolders ≤ table.size :=
  List.countP_le_length

theorem lockHolders_insert? {table next : PendingTable} {attempt : Attempt}
    (inserted : table.insert? attempt.holding = some next) :
    next.lockHolders = table.lockHolders + 1 := by
  rw [lockHolders, attempts_insert? inserted, List.countP_cons_of_pos (by rfl)]
  rfl

theorem lockHolders_filter (table : PendingTable) (keep : Attempt → Bool) :
    table.lockHolders =
      (table.filter keep).lockHolders +
        (table.attempts.filter (fun attempt => !keep attempt)).countP (·.holdsLock) :=
  List.countP_eq_countP_filter_add table.attempts (·.holdsLock) keep

theorem lockHolders_erase {table : PendingTable} {serial : Serial} {attempt : Attempt}
    (found : table.find? serial = some attempt) :
    table.lockHolders = (table.erase serial).lockHolders + attempt.holdsLock.toNat := by
  rw [lockHolders, (perm_erase found).countP_eq, List.countP_cons]
  cases attempt.holdsLock <;> rfl

@[simp] theorem lockHolders_acknowledge (table : PendingTable) (serial : Serial) :
    (table.acknowledge serial).lockHolders = table.lockHolders := by
  unfold lockHolders acknowledge map
  rw [List.countP_map]
  apply List.countP_congr
  intro attempt _
  show ((if attempt.serial = serial then _ else attempt : Attempt).holdsLock = true) ↔ _
  split <;> rfl

@[simp] theorem lockHolders_detachLocks (table : PendingTable) :
    table.detachLocks.lockHolders = 0 := by
  unfold lockHolders detachLocks map
  rw [List.countP_map, List.countP_eq_zero]
  intro attempt _ held
  exact Bool.false_ne_true held

end PendingTable

namespace Bridge

variable {χ : Type}

/-! ## Steps that leave the primary lock alone -/

/-- The primary lock is the same, and neither it nor its timeouts show up in what was done. -/
structure SamePrimary (before after : Bridge χ) : Prop where
  primary : after.locks.primary = before.locks.primary
  ack : after.locks.ack.id = before.locks.ack.id
  history : ∃ effects, after.history = before.history ++ effects ∧
    ∀ effect ∈ effects, effect.lock? ≠ some .primary

namespace SamePrimary

theorem refl (bridge : Bridge χ) : SamePrimary bridge bridge :=
  ⟨rfl, rfl, [], by simp, by simp⟩

theorem trans {first middle last : Bridge χ} (earlier : SamePrimary first middle)
    (later : SamePrimary middle last) : SamePrimary first last := by
  obtain ⟨old, oldHistory, oldElsewhere⟩ := earlier.history
  obtain ⟨new, newHistory, newElsewhere⟩ := later.history
  refine ⟨later.primary.trans earlier.primary, later.ack.trans earlier.ack, old ++ new, ?_, ?_⟩
  · rw [newHistory, oldHistory, List.append_assoc]
  · intro effect member
    rcases List.mem_append.mp member with member | member
    · exact oldElsewhere effect member
    · exact newElsewhere effect member

end SamePrimary

theorem samePrimary_emit (bridge : Bridge χ) {effects : List Effect}
    (elsewhere : ∀ effect ∈ effects, effect.lock? ≠ some .primary) :
    SamePrimary bridge (bridge.emit effects) :=
  ⟨rfl, rfl, effects, history_emit bridge effects, elsewhere⟩

theorem samePrimary_emit_one (bridge : Bridge χ) (effect : Effect)
    (elsewhere : effect.lock? ≠ some .primary) : SamePrimary bridge (bridge.emit [effect]) := by
  apply samePrimary_emit
  intro other member
  rw [List.mem_singleton.mp member]
  exact elsewhere

theorem samePrimary_schedule (bridge : Bridge χ) (timer : LockTimer) :
    SamePrimary bridge (bridge.schedule timer) := by
  unfold schedule
  split <;> exact ⟨rfl, rfl, [], (List.append_nil _).symm, by simp⟩

theorem samePrimary_recordOutcome (bridge : Bridge χ) (kind : RequestKind) (outcome : Outcome)
    (latency : Span) : SamePrimary bridge (bridge.recordOutcome kind outcome latency) := by
  refine ⟨rfl, rfl, _, history_of_journal rfl, ?_⟩
  intro effect member
  simp only [List.mem_cons, List.not_mem_nil, or_false] at member
  rcases member with rfl | rfl <;> simp [Effect.lock?]

theorem samePrimary_publishStatus (bridge : Bridge χ) (change : Option FaultStatus) :
    SamePrimary bridge (bridge.publishStatus change) := by
  cases change with
  | none => exact .refl bridge
  | some status =>
      apply samePrimary_emit
      intro effect member
      simp only [List.mem_cons, List.mem_map] at member
      rcases member with rfl | ⟨listener, -, rfl⟩ <;> simp [Effect.lock?]

theorem samePrimary_withDetector (bridge : Bridge χ)
    (step : Option FaultStatus × FaultDetector) :
    SamePrimary bridge (bridge.withDetector step) := by
  have moved : SamePrimary bridge { bridge with detector := step.2 } :=
    ⟨rfl, rfl, [], (List.append_nil _).symm, by simp⟩
  exact moved.trans (samePrimary_publishStatus _ step.1)

theorem samePrimary_sendAck [Channel χ] (bridge : Bridge χ) (now : Instant)
    (ack : bridge.locks.ack.id = .ack) : SamePrimary bridge (bridge.sendAck now) := by
  cases reply : Channel.sendAck bridge.channel with
  | mk refusal channel =>
      cases refusal with
      | some reason =>
          rw [sendAck_of_refused reply]
          refine ⟨rfl, rfl, _, history_of_journal rfl, ?_⟩
          intro effect member
          rw [List.mem_singleton.mp member]
          simp [Effect.lock?]
      | none =>
          rw [sendAck_of_accepted reply]
          refine .trans ?_ (samePrimary_schedule _ (bridge.locks.holdForAck now).1)
          refine ⟨rfl, ?_, _, history_of_journal rfl, ?_⟩
          · show (bridge.locks.ack.take now).1.id = bridge.locks.ack.id
            unfold WakeLock.take
            split <;> rfl
          · intro effect member
            simp only [List.mem_cons] at member
            rcases member with rfl | rfl | member
            · simp [Effect.lock?]
            · simp [Effect.lock?]
            · rw [WakeLocks.lock_of_mem_holdForAck member, ack]
              simp

theorem samePrimary_sendAckIf [Channel χ] (bridge : Bridge χ) (asked : Bool) (now : Instant)
    (ack : bridge.locks.ack.id = .ack) : SamePrimary bridge (bridge.sendAckIf asked now) := by
  unfold sendAckIf
  split
  · exact samePrimary_sendAck bridge now ack
  · exact .refl bridge

/-! ## References and their owners -/

/-- The references to the primary lock are owned by the attempts in the table that say so, and by
`inHand` others; and the system's hold agrees with the references. -/
structure Accounted (bridge : Bridge χ) (inHand : Nat) : Prop where
  primary : bridge.locks.primary.id = .primary
  ack : bridge.locks.ack.id = .ack
  references : bridge.locks.primary.count.toNat = bridge.pending.lockHolders + inHand
  balance : bridge.history.count (.lockTaken .primary) =
    bridge.history.count (.lockGivenBack .primary) + bridge.locks.primary.isHeld.toNat

/-- What concerns neither the lock nor the number of owners keeps the account. -/
theorem Accounted.of_samePrimary {before after : Bridge χ} {inHand left : Nat}
    (accounted : Accounted before inHand) (same : SamePrimary before after)
    (owners : after.pending.lockHolders + left = before.pending.lockHolders + inHand) :
    Accounted after left := by
  obtain ⟨effects, grown, elsewhere⟩ := same.history
  have taken : effects.count (.lockTaken .primary) = 0 :=
    List.count_eq_zero.mpr fun member => elsewhere _ member rfl
  have givenBack : effects.count (.lockGivenBack .primary) = 0 :=
    List.count_eq_zero.mpr fun member => elsewhere _ member rfl
  refine ⟨?_, same.ack.trans accounted.ack, ?_, ?_⟩
  · rw [same.primary, accounted.primary]
  · rw [same.primary, accounted.references, owners]
  · rw [grown, List.count_append, List.count_append, taken, givenBack, same.primary]
    exact accounted.balance

/-- The account after the primary lock moved, with its effects at the end of the history. -/
theorem Accounted.of_moves {before after : Bridge χ} {inHand left : Nat} {effects : List Effect}
    (accounted : Accounted before inHand) (ack : after.locks.ack.id = before.locks.ack.id)
    (grown : after.history = before.history ++ effects)
    (moves : WakeLock.Moves before.locks.primary after.locks.primary effects)
    (references : after.locks.primary.count.toNat = after.pending.lockHolders + left) :
    Accounted after left := by
  have balance := moves.balance
  rw [accounted.primary] at balance
  refine ⟨moves.id.trans accounted.primary, ack.trans accounted.ack, references, ?_⟩
  rw [grown, List.count_append, List.count_append]
  have start := accounted.balance
  omega

theorem accounted_withDetector {bridge : Bridge χ} {inHand : Nat}
    (accounted : Accounted bridge inHand) (step : Option FaultStatus × FaultDetector) :
    Accounted (bridge.withDetector step) inHand := by
  apply accounted.of_samePrimary (samePrimary_withDetector bridge step)
  rw [(sameRequests_withDetector bridge step).pending]

theorem accounted_acquireLock {bridge : Bridge χ} {inHand : Nat}
    (accounted : Accounted bridge inHand) (now : Instant)
    (room : bridge.pending.lockHolders + inHand + 1 < UInt32.size) :
    Accounted (bridge.acquireLock now) (inHand + 1) := by
  rw [← accounted.references] at room
  have counted := WakeLock.count_take now room
  have moves := WakeLock.moves_take now room
  have references := accounted.references
  by_cases free : bridge.locks.primary.count = 0
  · have course : bridge.acquireLock now =
        ({ bridge with locks := (bridge.locks.acquire now).2.1 }.emit
          (bridge.locks.acquire now).2.2).schedule
            ((bridge.locks.primary.take now).1.arm now).1 := by
      simp [acquireLock, WakeLocks.acquire, free]
    have taken : (bridge.locks.acquire now).2.2 = (bridge.locks.primary.take now).2 := by
      simp [WakeLocks.acquire, free]
    have armed : (bridge.locks.acquire now).2.1.primary =
        { (bridge.locks.primary.take now).1 with
          generation := (bridge.locks.primary.take now).1.generation + 1 } := by
      simp [WakeLocks.acquire, free, WakeLock.arm]
    have acked : (bridge.locks.acquire now).2.1.ack = bridge.locks.ack := by
      simp [WakeLocks.acquire, free]
    rw [course]
    have account : Accounted ({ bridge with locks := (bridge.locks.acquire now).2.1 }.emit
        (bridge.locks.acquire now).2.2) (inHand + 1) := by
      refine accounted.of_moves (congrArg WakeLock.id acked) (history_emit _ _) ?_ ?_
      · rw [taken]
        show WakeLock.Moves _ (bridge.locks.acquire now).2.1.primary _
        rw [armed]
        exact ⟨moves.id, moves.balance⟩
      · show (bridge.locks.acquire now).2.1.primary.count.toNat = _
        rw [armed]
        show (bridge.locks.primary.take now).1.count.toNat =
          bridge.pending.lockHolders + (inHand + 1)
        omega
    exact account.of_samePrimary (samePrimary_schedule _ _)
      (by rw [(sameRequests_schedule _ _).pending])
  · have course : bridge.acquireLock now =
        { bridge with locks := { bridge.locks with
          primary := (bridge.locks.primary.take now).1 } }.emit
            (bridge.locks.primary.take now).2 := by
      simp [acquireLock, WakeLocks.acquire, free]
    rw [course]
    refine accounted.of_moves rfl (history_emit _ _) moves ?_
    show (bridge.locks.primary.take now).1.count.toNat =
      bridge.pending.lockHolders + (inHand + 1)
    omega

theorem accounted_releaseLock {bridge : Bridge χ} {inHand : Nat}
    (accounted : Accounted bridge (inHand + 1)) (now : Instant) :
    Accounted (bridge.releaseLock now) inHand := by
  have references : bridge.locks.primary.count.toNat =
      bridge.pending.lockHolders + inHand + 1 := accounted.references
  exact accounted.of_moves rfl (history_of_journal rfl)
    (WakeLock.moves_drop now references) (WakeLock.count_drop now references)

theorem accounted_releaseIf {bridge : Bridge χ} {inHand : Nat} {held : Bool}
    (accounted : Accounted bridge (inHand + held.toNat)) (now : Instant) :
    Accounted (bridge.releaseIf held now) inHand := by
  cases held with
  | false => exact accounted
  | true => exact accounted_releaseLock accounted now

theorem accounted_finish {bridge : Bridge χ} {inHand : Nat} {attempt : Attempt}
    (accounted : Accounted bridge (inHand + attempt.holdsLock.toNat)) (outcome : Outcome)
    (now : Instant) : Accounted (bridge.finish attempt outcome now) inHand := by
  have released := accounted_releaseIf accounted now
  have recorded := samePrimary_recordOutcome (bridge.releaseIf attempt.holdsLock now)
    attempt.kind outcome (attempt.latency now)
  have settled := recorded.trans
    (samePrimary_emit_one _ (.settled attempt.ticket outcome) (by simp [Effect.lock?]))
  exact released.of_samePrimary settled rfl

theorem accounted_finishAll {attempts : List Attempt} {bridge : Bridge χ} {inHand : Nat}
    (accounted : Accounted bridge (inHand + attempts.countP (·.holdsLock)))
    (failure : RequestKind → Failure) (now : Instant) :
    Accounted (bridge.finishAll attempts failure now) inHand := by
  induction attempts generalizing bridge with
  | nil => exact accounted
  | cons attempt rest ih =>
      have owners : inHand + (attempt :: rest).countP (·.holdsLock) =
          inHand + rest.countP (·.holdsLock) + attempt.holdsLock.toNat := by
        rw [List.countP_cons]
        cases attempt.holdsLock <;> simp [Nat.add_assoc]
      rw [owners] at accounted
      exact ih (accounted_finish accounted _ now)

/-! ## Requests -/

theorem accounted_handOver {bridge : Bridge χ} {inHand : Nat}
    (accounted : Accounted bridge inHand) (attempt : Attempt) (reply : SendReply) (channel : χ)
    (now : Instant) (room : bridge.pending.lockHolders + inHand + 1 < UInt32.size) :
    Accounted (bridge.handOver attempt reply channel now) (inHand + 1) := by
  have acquired := accounted_acquireLock accounted now room
  refine acquired.of_samePrimary ⟨rfl, rfl, _, history_emit _ _, ?_⟩ rfl
  intro effect member
  rw [List.mem_singleton.mp member]
  simp [Effect.lock?]

theorem accounted_retrying {bridge : Bridge χ} {inHand : Nat}
    (accounted : Accounted bridge inHand) (kind : RequestKind) (failed version : Version) :
    Accounted (bridge.retrying kind failed version) inHand := by
  refine accounted.of_samePrimary ⟨rfl, rfl, _, history_of_journal rfl, ?_⟩ rfl
  intro effect member
  rw [List.mem_singleton.mp member]
  simp [Effect.lock?]

section

variable [Channel χ]

/-- Whatever becomes of a request that is issued, in the end its reference is owned in the table or
dropped. -/
theorem Issue.accounted {bridge after : Bridge χ} {attempt : Attempt} {now : Instant}
    {trace : List (Attempt × SendReply)} (issued : Issue now bridge attempt trace after)
    {inHand : Nat} (account : Accounted bridge inHand)
    (room : bridge.pending.size + inHand + attempt.kind.ladder.rungsBelow attempt.version + 1 <
      UInt32.size) :
    Accounted after inHand := by
  induction issued generalizing inHand with
  | @accepted bridge attempt pending channel spoken inserted replied =>
      have holders := bridge.pending.lockHolders_le_size
      have handed := accounted_handOver account attempt .accepted channel now (by omega)
      refine handed.of_samePrimary ⟨rfl, rfl, _, history_of_journal rfl, ?_⟩ ?_
      · intro effect member
        rw [List.mem_singleton.mp member]
        simp [Effect.lock?]
      · rw [pending_handOver]
        have owners := PendingTable.lockHolders_insert? inserted
        show pending.lockHolders + inHand = bridge.pending.lockHolders + (inHand + 1)
        omega
  | @unavailable bridge attempt pending channel reason spoken inserted replied =>
      have holders := bridge.pending.lockHolders_le_size
      have handed := accounted_handOver account attempt (.unavailable reason) channel now (by omega)
      exact accounted_finish handed _ now
  | @exhausted bridge attempt pending channel spoken inserted replied lowest =>
      have holders := bridge.pending.lockHolders_le_size
      have handed := accounted_handOver account attempt .versionRefused channel now (by omega)
      have lowered : Accounted ((bridge.handOver attempt .versionRefused channel now).lowered
          attempt.kind attempt.version) (inHand + 1) :=
        handed.of_samePrimary ⟨rfl, rfl, [], (List.append_nil _).symm, by simp⟩ rfl
      exact accounted_finish lowered _ now
  | @retried bridge after attempt pending channel version trace spoken inserted replied lower rest
      ih =>
      have holders := bridge.pending.lockHolders_le_size
      have handed := accounted_handOver account attempt .versionRefused channel now (by omega)
      have retrying := accounted_retrying handed attempt.kind attempt.version version
      -- The reference of the refused attempt stays until the retry is dealt with.
      obtain ⟨rung, below⟩ := VersionTable.next_of_current spoken lower
      have fewer := Ladder.rungsBelow_lt below rung
      have dealt := ih retrying (by
        show (bridge.handOver attempt .versionRefused channel now).pending.size + (inHand + 1) +
          attempt.kind.ladder.rungsBelow version + 1 < UInt32.size
        rw [pending_handOver]
        omega)
      exact accounted_releaseLock dealt now

theorem accounted_submit {bridge : Bridge χ} {submission : Submission} {now : Instant}
    (sound : (bridge.submit submission now).collision = none) (account : Accounted bridge 0)
    (room : bridge.pending.size + 1 + RequestKind.maxRungs < UInt32.size) :
    Accounted (bridge.submit submission now) 0 := by
  cases spoken : bridge.versions.current submission.kind with
  | none =>
      rw [submit_of_unspoken spoken]
      have recorded := samePrimary_recordOutcome bridge submission.kind
        (.failed (.unsupported submission.kind)) 0
      have settled := recorded.trans (samePrimary_emit_one _
        (.settled submission.ticket (.failed (.unsupported submission.kind)))
        (by simp [Effect.lock?]))
      exact account.of_samePrimary settled rfl
  | some version =>
      obtain ⟨trace, issued⟩ := submit_of_spoken spoken sound
      have rungs := Nat.le_trans (submission.kind.ladder.rungsBelow_le_length version)
        submission.kind.length_rungs_le
      apply issued.accounted account
      show bridge.pending.size + 0 + submission.kind.ladder.rungsBelow version + 1 < UInt32.size
      omega

theorem accounted_fallBack {bridge : Bridge χ} {attempt : Attempt} {failed : Version}
    {now : Instant} (sound : (bridge.fallBack attempt failed now).collision = none)
    (account : Accounted bridge attempt.holdsLock.toNat)
    (room : bridge.pending.size + 1 + RequestKind.maxRungs < UInt32.size) :
    Accounted (bridge.fallBack attempt failed now) 0 := by
  rcases fallBack_cases sound with ⟨lowest, course⟩ | ⟨version, trace, after, lower, issued, course⟩
  · rw [course]
    refine accounted_finish ?_ _ now
    rw [Nat.zero_add]
    exact account.of_samePrimary ⟨rfl, rfl, [], (List.append_nil _).symm, by simp⟩ rfl
  · rw [course]
    have rungs := VersionTable.rungsBelow_next_lt_maxRungs lower
    have retrying := accounted_retrying account attempt.kind failed version
    refine accounted_releaseIf ?_ now
    rw [Nat.zero_add]
    apply issued.accounted retrying
    show bridge.pending.size + attempt.holdsLock.toNat +
      attempt.kind.ladder.rungsBelow version + 1 < UInt32.size
    have one := attempt.holdsLock.toNat_le
    omega

theorem accounted_answered {bridge : Bridge χ} {header : AnswerHeader} {attempt : Attempt}
    (waiting : bridge.pending.find? header.serial = some attempt) (now : Instant)
    (account : Accounted bridge 0) :
    Accounted (bridge.answered attempt header now) attempt.holdsLock.toNat := by
  have taken : Accounted { bridge with pending := bridge.pending.erase header.serial }
      attempt.holdsLock.toNat := by
    refine account.of_samePrimary ⟨rfl, rfl, [], (List.append_nil _).symm, by simp⟩ ?_
    exact (PendingTable.lockHolders_erase waiting).symm
  have received := samePrimary_sendAckIf _ header.type.ackExpected now taken.ack
  apply taken.of_samePrimary (received.trans (samePrimary_withDetector _ _))
  have table := (sameRequests_answered bridge attempt header now).pending
  exact congrArg (fun pending => PendingTable.lockHolders pending + attempt.holdsLock.toNat) table

theorem accounted_onAnswer {bridge : Bridge χ} {header : AnswerHeader} {payload : Payload}
    {now : Instant} (sound : (bridge.onAnswer header payload now).collision = none)
    (account : Accounted bridge 0)
    (room : bridge.pending.size + RequestKind.maxRungs < UInt32.size) :
    Accounted (bridge.onAnswer header payload now) 0 := by
  cases waiting : bridge.pending.find? header.serial with
  | none =>
      rw [onAnswer_of_stale waiting]
      refine account.of_samePrimary ⟨rfl, rfl, _, history_of_journal rfl, ?_⟩ rfl
      intro effect member
      rw [List.mem_singleton.mp member]
      simp [Effect.lock?]
  | some attempt =>
      have inHand := accounted_answered waiting now account
      have size := PendingTable.size_erase waiting
      rw [onAnswer_of_waiting waiting] at sound ⊢
      split
      · rename_i refused
        rw [if_pos refused] at sound
        apply accounted_fallBack sound inHand
        rw [(sameRequests_answered bridge attempt header now).pending]
        show (bridge.pending.erase header.serial).size + 1 + RequestKind.maxRungs < UInt32.size
        omega
      · split
        · exact accounted_finish (by rwa [Nat.zero_add]) _ now
        · exact accounted_finish (by rwa [Nat.zero_add]) _ now

end

/-! ## Timers, losses and the end -/

theorem accounted_onLockTimer {bridge : Bridge χ} (account : Accounted bridge 0)
    (timer : LockTimer) (now : Instant) : Accounted (bridge.onLockTimer timer now) 0 := by
  cases judged : bridge.locks.onTimer timer now with
  | mk expiry rest =>
      by_cases timedOut : ∃ outstanding, expiry = .timedOut outstanding
      · obtain ⟨outstanding, rfl⟩ := timedOut
        obtain ⟨-, free, ack, moves, -⟩ := WakeLocks.onTimer_eq_timedOut judged
        rw [onLockTimer_of_timedOut judged]
        refine accounted_withDetector ?_ _
        apply account.of_moves (congrArg WakeLock.id ack) (history_of_journal rfl) moves
        show rest.1.primary.count.toNat = bridge.pending.detachLocks.lockHolders + 0
        rw [free, PendingTable.lockHolders_detachLocks]
        rfl
      · have kept : ∀ outstanding, expiry ≠ .timedOut outstanding :=
          fun outstanding same => timedOut ⟨outstanding, same⟩
        obtain ⟨primary, ack, about⟩ := WakeLocks.onTimer_of_not_timedOut judged kept
        rw [onLockTimer_of_not_timedOut judged kept]
        refine account.of_samePrimary ⟨primary, ack, _, history_of_journal rfl, ?_⟩ rfl
        intro effect member
        rw [about effect member, account.ack]
        simp

theorem accounted_firePrimaryTimer {bridge : Bridge χ} (account : Accounted bridge 0)
    (now : Instant) : Accounted (bridge.firePrimaryTimer now) 0 := by
  unfold firePrimaryTimer
  split
  · exact account
  · split
    · refine accounted_onLockTimer ?_ _ now
      exact account.of_samePrimary ⟨rfl, rfl, [], (List.append_nil _).symm, by simp⟩ rfl
    · exact account

theorem accounted_fireAckTimer {bridge : Bridge χ} (account : Accounted bridge 0)
    (now : Instant) : Accounted (bridge.fireAckTimer now) 0 := by
  unfold fireAckTimer
  split
  · exact account
  · split
    · refine accounted_onLockTimer ?_ _ now
      exact account.of_samePrimary ⟨rfl, rfl, [], (List.append_nil _).symm, by simp⟩ rfl
    · exact account

theorem accounted_ageOut {bridge : Bridge χ} (account : Accounted bridge 0) (now : Instant) :
    Accounted (bridge.ageOut now) 0 := by
  refine accounted_finishAll ?_ .timedOut now
  refine account.of_samePrimary ⟨rfl, rfl, [], (List.append_nil _).symm, by simp⟩ ?_
  have parts : bridge.pending.lockHolders =
      (bridge.pending.filter fun attempt =>
        !PendingTable.isExpired now bridge.maxAge attempt).lockHolders +
      (bridge.pending.attempts.filter (PendingTable.isExpired now bridge.maxAge)).countP
        (·.holdsLock) := by
    have split := bridge.pending.lockHolders_filter
      (fun attempt => !PendingTable.isExpired now bridge.maxAge attempt)
    simpa only [Bool.not_not] using split
  have taken := (PendingTable.inOrder_perm
    (bridge.pending.attempts.filter (PendingTable.isExpired now bridge.maxAge))).countP_eq
      (·.holdsLock)
  show (bridge.pending.filter _).lockHolders + (0 + (PendingTable.inOrder _).countP _) = _
  omega

theorem accounted_fireDueTimers {bridge : Bridge χ} (account : Accounted bridge 0)
    (now : Instant) : Accounted (bridge.fireDueTimers now) 0 :=
  accounted_ageOut (accounted_fireAckTimer (accounted_firePrimaryTimer account now) now) now

theorem accounted_failAll {bridge : Bridge χ} (account : Accounted bridge 0) (now : Instant) :
    Accounted (bridge.failAll now) 0 := by
  refine accounted_finishAll ?_ .channelUnavailable now
  refine account.of_samePrimary ⟨rfl, rfl, [], (List.append_nil _).symm, by simp⟩ ?_
  rw [Nat.zero_add, (PendingTable.inOrder_perm bridge.pending.attempts).countP_eq]
  exact Nat.zero_add _

theorem accounted_shutdown {bridge : Bridge χ} (account : Accounted bridge 0) (now : Instant) :
    Accounted (bridge.shutdown now) 0 := by
  cases running : bridge.running with
  | false => rwa [shutdown_of_stopped running]
  | true =>
      have failed := accounted_failAll account now
      have empty := (settles_failAll bridge now).pending
      have moves := WakeLock.moves_clear (bridge.failAll now).locks.primary now
      have ackMoves := WakeLock.moves_clear (bridge.failAll now).locks.ack now
      have elsewhere : ∀ effect ∈ ((bridge.failAll now).locks.ack.clear now).2,
          effect.lock? = some .ack := by
        intro effect member
        rw [WakeLock.lock_of_mem_clear member, failed.ack]
      have whole := moves.append
        (fun member => by
          have about := elsewhere _ member
          rw [failed.primary] at about
          simp [Effect.lock?] at about)
        (fun member => by
          have about := elsewhere _ member
          rw [failed.primary] at about
          simp [Effect.lock?] at about)
      simp only [shutdown, running, if_true]
      refine failed.of_moves ackMoves.id (history_emit _ _) whole ?_
      show ((bridge.failAll now).locks.primary.clear now).1.count.toNat =
        (bridge.failAll now).pending.lockHolders + 0
      rw [WakeLock.count_clear, empty]
      rfl

/-! ## Events -/

section

variable [Channel χ]

theorem accounted_onIndication {bridge : Bridge χ} (account : Accounted bridge 0)
    (indication : Indication) (now : Instant) :
    Accounted (bridge.onIndication indication now) 0 := by
  have counted : SamePrimary bridge ({ bridge with totals := { bridge.totals with
      indications := bridge.totals.indications + 1 } }.measure .indicationReceived) := by
    refine ⟨rfl, rfl, _, history_of_journal rfl, ?_⟩
    intro effect member
    rw [List.mem_singleton.mp member]
    simp [Effect.lock?]
  have acked := counted.trans
    (samePrimary_sendAckIf _ indication.type.ackExpected now account.ack)
  refine account.of_samePrimary (acked.trans (samePrimary_emit _ ?_)) ?_
  · intro effect member
    obtain ⟨listener, -, rfl⟩ := List.mem_map.mp member
    simp [Effect.lock?]
  · have table := (sameRequests_onIndication bridge indication now).pending
    exact congrArg (fun pending => PendingTable.lockHolders pending + 0) table

theorem accounted_react {bridge : Bridge χ} {now : Instant} {event : Event}
    (sound : (bridge.react now event).collision = none) (account : Accounted bridge 0)
    (room : bridge.pending.size + (EventLoop.submissions [event]).length + RequestKind.maxRungs <
      UInt32.size) :
    Accounted (bridge.react now event) 0 := by
  cases event with
  | submit submission => exact accounted_submit sound account room
  | answer header payload =>
      apply accounted_onAnswer sound account
      exact Nat.lt_of_le_of_lt (Nat.add_le_add_right (Nat.le_add_right _ _) _) room
  | requestAck serial =>
      refine account.of_samePrimary ⟨rfl, rfl, [], (List.append_nil _).symm, by simp⟩ ?_
      rw [react, onRequestAck, PendingTable.lockHolders_acknowledge]
  | indication indication => exact accounted_onIndication account indication now
  | channelLost => exact accounted_failAll account now
  | channelRestarted => exact accounted_withDetector account _
  | listenIndications listener | listenStatus listener =>
      exact account.of_samePrimary ⟨rfl, rfl, [], (List.append_nil _).symm, by simp⟩ rfl
  | shutdown => exact accounted_shutdown account now

theorem accounted_handleEach {bridge : Bridge χ} {now : Instant} {events : List Event}
    (sound : (bridge.handleEach now events).collision = none) (account : Accounted bridge 0)
    (room : bridge.pending.size + (EventLoop.submissions events).length + RequestKind.maxRungs <
      UInt32.size) :
    Accounted (bridge.handleEach now events) 0 := by
  have handled := handleEach_induction
    (fun rest bridge => Accounted bridge 0 ∧
      bridge.pending.size + (EventLoop.submissions rest).length + RequestKind.maxRungs <
        UInt32.size) ?_ sound ⟨account, room⟩
  · exact handled.1
  · rintro event rest bridge - after ⟨account, room⟩
    rw [EventLoop.submissions_cons, List.length_append] at room
    have size := size_react_le after
    exact ⟨accounted_react after account (by omega), by omega⟩

theorem accounted_call {bridge : Bridge χ} {call : Call χ}
    (sound : (bridge.call call).collision = none) (account : Accounted bridge 0)
    (room : bridge.pending.size + call.submissions.length + RequestKind.maxRungs <
      UInt32.size) :
    Accounted (bridge.call call) 0 := by
  cases call with
  | batch events now =>
      have fired := accounted_fireDueTimers account now
      have size := size_fireDueTimers_le bridge now
      have ordered := (EventLoop.submissions_perm (Event.inPhaseOrder_perm events)).length_eq
      have room : bridge.pending.size + (EventLoop.submissions events).length +
        RequestKind.maxRungs < UInt32.size := room
      have handled : ((bridge.fireDueTimers now).handleEach now
          (Event.inPhaseOrder events)).collision = none := sound
      refine (accounted_handleEach handled fired (by omega)).of_samePrimary ?_ rfl
      exact samePrimary_emit_one _ _ (by simp [Effect.lock?])
  | timers now => exact accounted_fireDueTimers account now
  | event event now =>
      have reacts : bridge.call (.event event now) = bridge.react now event :=
        handle_of_sound (collision_of_handle sound) now event
      rw [reacts] at sound ⊢
      exact accounted_react sound account room
  | sampled => exact account.of_samePrimary (samePrimary_emit_one _ _ (by simp [Effect.lock?])) rfl
  | serialTaken | channelChanged | indicationListenerLost | statusListenerLost =>
      exact account.of_samePrimary ⟨rfl, rfl, [], (List.append_nil _).symm, by simp⟩ rfl

/-- A run leaves room in the counter, which has 32 bits: before each call it can take the references
of the attempts that wait, of the requests in the call, and of one request on its way down the
ladder. -/
def HasRoom (bridge : Bridge χ) : List (Call χ) → Prop
  | [] => True
  | call :: rest =>
    bridge.pending.size + call.submissions.length + RequestKind.maxRungs < UInt32.size ∧
      HasRoom (bridge.call call) rest

theorem accounted_run {calls : List (Call χ)} {bridge : Bridge χ}
    (sound : (bridge.run calls).collision = none) (account : Accounted bridge 0)
    (room : HasRoom bridge calls) : Accounted (bridge.run calls) 0 := by
  induction calls generalizing bridge with
  | nil => exact account
  | cons first rest ih =>
      exact ih sound (accounted_call (collision_of_run sound) account room.1) room.2

end

end Bridge

end ModemLink
