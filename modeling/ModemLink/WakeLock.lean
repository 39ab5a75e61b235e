/-
Module: ModemLink.WakeLock
Purpose: Reference counts, holds and timers of the two wake locks.
Main exports: LockTimer, LockExpiry, WakeLock, WakeLocks
-/
import ModemLink.Journal

namespace ModemLink

/-!
The primary lock is held while a request is outstanding.  Its timer starts with the hold, and takes
the lock away when it fires.  The ack lock is held for a while after each acknowledgement, and each
one starts its timer anew.

A lock does not run its timers.  It hands out a `LockTimer`, is shown it again when it fires, and
honours it only while its generation is the latest and the lock is held.
-/

/-- A timer that a lock handed out. -/
structure LockTimer where
  lock : LockId
  generation : UInt64
  deadline : Instant
deriving DecidableEq, Repr

/-- What a lock says to a timer that fires. -/
inductive LockExpiry where
  /-- The timer belongs to an earlier hold. -/
  | stale
  /-- The hold after an acknowledgement is over. -/
  | released
  /-- The primary lock was taken away with this many references outstanding. -/
  | timedOut (outstanding : UInt32)
deriving DecidableEq, Repr

/-- One wake lock. -/
structure WakeLock where
  id : LockId
  /-- References outstanding; the lock is held while there are any. -/
  count : UInt32
  /-- Counts the timers handed out. -/
  generation : UInt64
  /-- Since when the lock is held. -/
  heldSince : Option Instant
  /-- How long a timer runs. -/
  ceiling : Span
deriving DecidableEq, Repr

namespace WakeLock

def free (id : LockId) (ceiling : Span) : WakeLock :=
  ⟨id, 0, 0, none, ceiling⟩

/-- Whether the lock is held. -/
def isHeld (lock : WakeLock) : Bool :=
  0 < lock.count

/-- Take one more reference.  The first one takes the lock from the system. -/
def take (lock : WakeLock) (now : Instant) : WakeLock × List Effect :=
  if lock.count = 0 then
    ({ lock with count := lock.count + 1, heldSince := some now },
      [.lockTaken lock.id, .measured (.lockAcquired lock.id)])
  else
    ({ lock with count := lock.count + 1 }, [])

/-- Hand out a timer.  It makes all earlier ones stale. -/
def arm (lock : WakeLock) (now : Instant) : LockTimer × WakeLock :=
  (⟨lock.id, lock.generation + 1, now + lock.ceiling⟩,
    { lock with generation := lock.generation + 1 })

/-- Give the lock back to the system, whatever references are outstanding. -/
def giveBack (lock : WakeLock) (now : Instant) : WakeLock × List Effect :=
  ({ lock with count := 0, heldSince := none },
    .lockGivenBack lock.id ::
      (lock.heldSince.map fun start => .measured (.lockHeld lock.id (now.since start))).toList)

/-- Drop one reference, if there is one.  With the last one the lock goes back to the system. -/
def drop (lock : WakeLock) (now : Instant) : WakeLock × List Effect :=
  if lock.count = 0 then (lock, [])
  else if lock.count = 1 then lock.giveBack now
  else ({ lock with count := lock.count - 1 }, [])

/-- Honour a timer of the latest generation while the lock is held: give the lock back, and tell how
many references were outstanding. -/
def expire (lock : WakeLock) (generation : UInt64) (now : Instant) :
    Option UInt32 × WakeLock × List Effect :=
  if generation = lock.generation ∧ lock.count ≠ 0 then
    (some lock.count, lock.giveBack now)
  else
    (none, lock, [])

/-- Give the lock back if it is held. -/
def clear (lock : WakeLock) (now : Instant) : WakeLock × List Effect :=
  if lock.count = 0 then (lock, []) else lock.giveBack now

end WakeLock

/-- The two wake locks of a bridge. -/
structure WakeLocks where
  primary : WakeLock
  ack : WakeLock
deriving DecidableEq, Repr

namespace WakeLocks

/-- Both locks free.  `ceiling` bounds a hold of the primary lock, `ackHold` is how long the other
one is held after an acknowledgement. -/
def free (ceiling ackHold : Span) : WakeLocks :=
  ⟨.free .primary ceiling, .free .ack ackHold⟩

/-- Take a reference to the primary lock.  The first one starts the timer. -/
def acquire (locks : WakeLocks) (now : Instant) : Option LockTimer × WakeLocks × List Effect :=
  let (taken, effects) := locks.primary.take now
  if locks.primary.count = 0 then
    let (timer, armed) := taken.arm now
    (some timer, { locks with primary := armed }, effects)
  else
    (none, { locks with primary := taken }, effects)

/-- Drop a reference to the primary lock. -/
def release (locks : WakeLocks) (now : Instant) : WakeLocks × List Effect :=
  let (primary, effects) := locks.primary.drop now
  ({ locks with primary := primary }, effects)

/-- Hold the ack lock from now on, with a timer of its own. -/
def holdForAck (locks : WakeLocks) (now : Instant) : LockTimer × WakeLocks × List Effect :=
  let (taken, effects) := locks.ack.take now
  let (timer, armed) := taken.arm now
  (timer, { locks with ack := armed }, effects)

/-- Judge a timer that fires. -/
def onTimer (locks : WakeLocks) (timer : LockTimer) (now : Instant) :
    LockExpiry × WakeLocks × List Effect :=
  match timer.lock with
  | .primary =>
    match locks.primary.expire timer.generation now with
    | (some outstanding, primary, effects) =>
      (.timedOut outstanding, { locks with primary := primary },
        effects ++ [.measured (.lockTimedOut .primary)])
    | (none, _, _) => (.stale, locks, [])
  | .ack =>
    match locks.ack.expire timer.generation now with
    | (some _, ack, effects) => (.released, { locks with ack := ack }, effects)
    | (none, _, _) => (.stale, locks, [])

/-- Give back what is held, the primary lock first. -/
def releaseAll (locks : WakeLocks) (now : Instant) : WakeLocks × List Effect :=
  let (primary, fromPrimary) := locks.primary.clear now
  let (ack, fromAck) := locks.ack.clear now
  (⟨primary, ack⟩, fromPrimary ++ fromAck)

/-- How long the primary lock has been held. -/
def primaryHeldFor (locks : WakeLocks) (now : Instant) : Option Span :=
  locks.primary.heldSince.map now.since

end WakeLocks

end ModemLink
