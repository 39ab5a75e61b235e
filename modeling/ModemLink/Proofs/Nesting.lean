/-
Module: ModemLink.Proofs.Nesting
Purpose: References to the primary lock that are taken while it is held, and dropped again.
Main exports:
  deeper, HasDepth, acquireLock_deeper, acquireLock_of_hasDepth, releaseLock_deeper,
  hasDepth_acquireLock, releaseTimes, releaseTimes_deeper
-/
import ModemLink.Proofs.References

namespace ModemLink

/-!
A refused request is retried before its own reference is dropped, so references nest.  While the
lock is held anyway, taking some more and dropping them again leaves no trace: neither in the lock,
nor in its timer, nor in the journal.
-/

/-- The lock with more references. -/
def WakeLock.deeper (lock : WakeLock) (depth : Nat) : WakeLock :=
  { lock with count := UInt32.ofNat (lock.count.toNat + depth) }

namespace WakeLock

variable {lock : WakeLock} {depth : Nat}

theorem deeper_zero (lock : WakeLock) : lock.deeper 0 = lock := by
  simp [deeper]

theorem toNat_deeper (room : lock.count.toNat + depth < UInt32.size) :
    (lock.deeper depth).count.toNat = lock.count.toNat + depth :=
  UInt32.toNat_ofNat_of_lt' room

theorem deeper_ne_zero (held : lock.count ≠ 0) (room : lock.count.toNat + depth < UInt32.size) :
    (lock.deeper depth).count ≠ 0 := by
  have positive : lock.count.toNat ≠ 0 := fun zero => held (UInt32.toNat_inj.mp zero)
  intro zero
  have counted := toNat_deeper room
  rw [zero] at counted
  exact positive (Nat.eq_zero_of_add_eq_zero_right counted.symm)

/-- One more reference does not take the lock from the system again. -/
theorem take_deeper (held : lock.count ≠ 0) (room : lock.count.toNat + depth < UInt32.size)
    (now : Instant) : (lock.deeper depth).take now = (lock.deeper (depth + 1), []) := by
  have more := UInt32.ofNat_add (lock.count.toNat + depth) 1
  rw [take, if_neg (deeper_ne_zero held room)]
  exact congrArg (fun count => ({ lock with count := count }, [])) more.symm

/-- One reference less does not give the lock back. -/
theorem drop_deeper (held : lock.count ≠ 0)
    (room : lock.count.toNat + (depth + 1) < UInt32.size) (now : Instant) :
    (lock.deeper (depth + 1)).drop now = (lock.deeper depth, []) := by
  have several : (lock.deeper (depth + 1)).count ≠ 1 := by
    intro one
    have counted := toNat_deeper room
    rw [one] at counted
    have positive : lock.count.toNat ≠ 0 := fun zero => held (UInt32.toNat_inj.mp zero)
    have single : (1 : UInt32).toNat = 1 := rfl
    omega
  have more := UInt32.ofNat_add (lock.count.toNat + depth) 1
  have fewer : (lock.deeper (depth + 1)).count - 1 = (lock.deeper depth).count :=
    (congrArg (· - 1) more).trans (UInt32.add_sub_cancel _ _)
  rw [drop, if_neg (deeper_ne_zero held room), if_neg several]
  exact congrArg (fun count => ({ lock with count := count }, [])) fewer

end WakeLock

namespace Bridge

variable {χ : Type}

/-- The bridge with more references to the primary lock. -/
def deeper (bridge : Bridge χ) (depth : Nat) : Bridge χ :=
  { bridge with locks := { bridge.locks with primary := bridge.locks.primary.deeper depth } }

theorem deeper_zero (bridge : Bridge χ) : bridge.deeper 0 = bridge := by
  simp [deeper, WakeLock.deeper_zero]

/-- The primary lock is held, and so many more references can be counted. -/
structure HasDepth (bridge : Bridge χ) (depth : Nat) : Prop where
  held : bridge.locks.primary.count ≠ 0
  room : bridge.locks.primary.count.toNat + depth < UInt32.size

theorem HasDepth.mono {bridge : Bridge χ} {depth less : Nat} (has : bridge.HasDepth depth)
    (fewer : less ≤ depth) : bridge.HasDepth less :=
  ⟨has.held, Nat.lt_of_le_of_lt (Nat.add_le_add_left fewer _) has.room⟩

theorem HasDepth.of_locks {bridge other : Bridge χ} {depth : Nat} (has : bridge.HasDepth depth)
    (same : other.locks = bridge.locks) : other.HasDepth depth :=
  ⟨same ▸ has.held, same ▸ has.room⟩

theorem acquireLock_deeper {bridge : Bridge χ} {depth : Nat} (has : bridge.HasDepth depth)
    (now : Instant) : (bridge.deeper depth).acquireLock now = bridge.deeper (depth + 1) := by
  have taken : (bridge.deeper depth).locks.acquire now =
      (none, (bridge.deeper (depth + 1)).locks, []) := by
    simp only [WakeLocks.acquire, deeper, WakeLock.take_deeper has.held has.room]
    exact if_neg (WakeLock.deeper_ne_zero has.held has.room)
  simp only [acquireLock, taken]
  rfl

/-- A reference that is taken while the lock is held only counts. -/
theorem acquireLock_of_hasDepth {bridge : Bridge χ} (has : bridge.HasDepth 0) (now : Instant) :
    bridge.acquireLock now = bridge.deeper 1 := by
  have taken := acquireLock_deeper has now
  rwa [deeper_zero] at taken

theorem releaseLock_deeper {bridge : Bridge χ} {depth : Nat} (has : bridge.HasDepth (depth + 1))
    (now : Instant) : (bridge.deeper (depth + 1)).releaseLock now = bridge.deeper depth := by
  have dropped : (bridge.deeper (depth + 1)).locks.release now =
      ((bridge.deeper depth).locks, []) := by
    simp only [WakeLocks.release, deeper, WakeLock.drop_deeper has.held has.room]
  have fewer := has.mono (Nat.le_succ depth)
  have held : (bridge.deeper depth).locks.primary.isHeld = true := by
    have nonzero := WakeLock.deeper_ne_zero fewer.held fewer.room
    exact decide_eq_true (UInt32.pos_iff_ne_zero.mpr nonzero)
  simp only [releaseLock, dropped, held, if_true]
  rfl

theorem locks_acquireLock (bridge : Bridge χ) (now : Instant) :
    (bridge.acquireLock now).locks = (bridge.locks.acquire now).2.1 := by
  unfold acquireLock
  split <;> rename_i acquired <;> rw [acquired]
  · unfold schedule
    split <;> rfl
  · rfl

/-- A lock is held once it was taken, whether it was free before or not. -/
theorem hasDepth_acquireLock {bridge : Bridge χ} {depth : Nat}
    (room : bridge.locks.primary.count.toNat + 1 + depth < UInt32.size) (now : Instant) :
    (bridge.acquireLock now).HasDepth depth := by
  have taken : (bridge.acquireLock now).locks.primary.count =
      (bridge.locks.primary.take now).1.count := by
    rw [locks_acquireLock]
    by_cases free : bridge.locks.primary.count = 0 <;>
      simp [WakeLocks.acquire, WakeLock.arm, free]
  have counted : (bridge.acquireLock now).locks.primary.count.toNat =
      bridge.locks.primary.count.toNat + 1 := by
    rw [taken]
    exact WakeLock.count_take now (Nat.lt_of_le_of_lt (Nat.le_add_right _ depth) room)
  refine ⟨?_, counted ▸ room⟩
  intro free
  rw [free] at counted
  cases counted

/-- Drop several references to the primary lock. -/
def releaseTimes : Nat → Bridge χ → Instant → Bridge χ
  | 0, bridge, _ => bridge
  | times + 1, bridge, now => releaseTimes times (bridge.releaseLock now) now

/-- References that were taken while the lock was held go without a trace. -/
theorem releaseTimes_deeper {bridge : Bridge χ} {depth : Nat} (has : bridge.HasDepth depth)
    (now : Instant) : (bridge.deeper depth).releaseTimes depth now = bridge := by
  induction depth with
  | zero => exact deeper_zero bridge
  | succ depth ih =>
      rw [releaseTimes, releaseLock_deeper has]
      exact ih (has.mono (Nat.le_succ depth))

/-- With one reference less than were taken, the lock is given up at last. -/
theorem releaseTimes_succ_deeper {bridge : Bridge χ} {depth : Nat} (has : bridge.HasDepth depth)
    (now : Instant) :
    (bridge.deeper depth).releaseTimes (depth + 1) now = bridge.releaseLock now := by
  induction depth with
  | zero => rw [releaseTimes, releaseTimes, deeper_zero]
  | succ depth ih =>
      rw [releaseTimes, releaseLock_deeper has]
      exact ih (has.mono (Nat.le_succ depth))

end Bridge

end ModemLink
