/-
Module: ModemLink.Bridge.Timers
Purpose: What a bridge does when time passes.
Main exports: fireDueTimers, nextDeadline?
-/
import ModemLink.Bridge.Basic

namespace ModemLink.Bridge

variable {χ : Type}

/-- A timer of one of the locks fires. -/
def onLockTimer (bridge : Bridge χ) (timer : LockTimer) (now : Instant) : Bridge χ :=
  match bridge.locks.onTimer timer now with
  | (.timedOut _, locks, effects) =>
    let bridge := { bridge with locks := locks }.emit effects
    let bridge := { bridge with
      pending := bridge.pending.detachLocks
      totals := { bridge.totals with lockTimeouts := bridge.totals.lockTimeouts + 1 } }
    bridge.withDetector (bridge.detector.onLockTimeout now)
  | (.released, locks, effects) => { bridge with locks := locks }.emit effects
  | (.stale, locks, effects) => { bridge with locks := locks }.emit effects

/-- Fail the attempts that waited too long. -/
def ageOut (bridge : Bridge χ) (now : Instant) : Bridge χ :=
  match bridge.pending.ageOut now bridge.maxAge with
  | (expired, pending) => { bridge with pending := pending }.finishAll expired .timedOut now

/-- Fire the timer of the primary lock if it is due. -/
def firePrimaryTimer (bridge : Bridge χ) (now : Instant) : Bridge χ :=
  match bridge.primaryTimer with
  | none => bridge
  | some timer =>
    if timer.deadline ≤ now then { bridge with primaryTimer := none }.onLockTimer timer now
    else bridge

/-- Fire the timer of the ack lock if it is due. -/
def fireAckTimer (bridge : Bridge χ) (now : Instant) : Bridge χ :=
  match bridge.ackTimer with
  | none => bridge
  | some timer =>
    if timer.deadline ≤ now then { bridge with ackTimer := none }.onLockTimer timer now
    else bridge

/-- Fire all timers that are due: those of the locks, then the age of attempts. -/
def fireDueTimers (bridge : Bridge χ) (now : Instant) : Bridge χ :=
  ((bridge.firePrimaryTimer now).fireAckTimer now).ageOut now

/-- The earliest instant at which a timer is due. -/
def nextDeadline? (bridge : Bridge χ) : Option Instant :=
  [bridge.primaryTimer.map LockTimer.deadline,
    bridge.ackTimer.map LockTimer.deadline,
    bridge.pending.oldest?.map (· + bridge.maxAge)].filterMap id |>.min?

end ModemLink.Bridge
