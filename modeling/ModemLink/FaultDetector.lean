/-
Module: ModemLink.FaultDetector
Purpose: Judges from timeouts and repeated errors whether the modem is wedged.
Main exports: FaultDetector, onLockTimeout, onAnswer, reset, FaultSnapshot
-/
import ModemLink.Config
import ModemLink.Metric
import ModemLink.RequestKind.Table

namespace ModemLink

/-!
Two signs count: timeouts of the primary lock in a row, and designated errors in a row for one kind
of request.  A success ends the first row; any answer of the kind that is no designated error ends
the second.  One threshold raises a suspicion, a larger one confirms it for good.
-/

/-- The rows counted so far, and the verdict. -/
structure FaultDetector where
  config : DetectorConfig
  /-- The timeouts in the present row, oldest first. -/
  lockTimeouts : List Instant
  /-- Length of the present row of designated errors of each kind. -/
  streaks : RequestKind.Table UInt32
  status : FaultStatus
deriving DecidableEq, Repr

/-- What a detector shows of itself. -/
structure FaultSnapshot where
  status : FaultStatus := .normal
  lockTimeouts : UInt32 := 0
  /-- The kinds in a row of designated errors, with its length. -/
  systemErrors : List (RequestKind × UInt32) := []
deriving DecidableEq, Repr, Inhabited

namespace FaultDetector

/-- A detector that has seen nothing. -/
def new (config : DetectorConfig) : FaultDetector :=
  ⟨config, [], .const 0, .normal⟩

/-- Length of the row of timeouts. -/
def timeoutCount (detector : FaultDetector) : UInt32 :=
  UInt32.ofNat detector.lockTimeouts.length

/-- Length of the longest row of designated errors. -/
def maxStreak (detector : FaultDetector) : UInt32 :=
  detector.streaks.toList.foldl (fun longest entry => max longest entry.2) 0

/-- Drop timeouts that have left the window. -/
def prune (detector : FaultDetector) (now : Instant) : FaultDetector :=
  match detector.config.lockTimeoutWindow with
  | none => detector
  | some window =>
    { detector with lockTimeouts := detector.lockTimeouts.dropWhile (window < now.since ·) }

/-- The verdict on the present rows.  A confirmed fault stays; a suspicion of the lock keeps its
name while its own condition holds. -/
def verdict (detector : FaultDetector) : FaultStatus :=
  let config := detector.config
  if detector.status = .confirmed then
    .confirmed
  else if config.lockTimeoutConfirmThreshold ≤ detector.timeoutCount
      ∨ config.systemErrorConfirmThreshold ≤ detector.maxStreak then
    .confirmed
  else if detector.status = .lockSuspected
      ∧ config.lockTimeoutThreshold ≤ detector.timeoutCount then
    .lockSuspected
  else if config.systemErrorThreshold ≤ detector.maxStreak then
    .repetitiveErrorSuspected
  else if config.lockTimeoutThreshold ≤ detector.timeoutCount then
    .lockSuspected
  else
    .normal

/-- Move to another status, and tell whether it is a change. -/
def settle (detector : FaultDetector) (status : FaultStatus) : Option FaultStatus × FaultDetector :=
  if status = detector.status then (none, detector)
  else (some status, { detector with status := status })

/-- Move to the verdict on the present rows. -/
def judge (detector : FaultDetector) : Option FaultStatus × FaultDetector :=
  detector.settle detector.verdict

/-- The primary lock hit its ceiling. -/
def onLockTimeout (detector : FaultDetector) (now : Instant) :
    Option FaultStatus × FaultDetector :=
  ({ detector with lockTimeouts := detector.lockTimeouts ++ [now] }.prune now).judge

/-- The rows after an answer for a kind. -/
def countAnswer (detector : FaultDetector) (kind : RequestKind) (code : AnswerCode) :
    FaultDetector :=
  if detector.config.systemErrorCodes.contains code then
    { detector with streaks := detector.streaks.set kind (detector.streaks.get kind + 1) }
  else
    { detector with
      streaks := detector.streaks.set kind 0
      lockTimeouts := if code.isSuccess then [] else detector.lockTimeouts }

/-- An answer for a kind came in. -/
def onAnswer (detector : FaultDetector) (kind : RequestKind) (code : AnswerCode) (now : Instant) :
    Option FaultStatus × FaultDetector :=
  ((detector.countAnswer kind code).prune now).judge

/-- The channel restarted: what was seen before no longer counts. -/
def reset (detector : FaultDetector) : Option FaultStatus × FaultDetector :=
  { detector with lockTimeouts := [], streaks := .const 0 }.settle .normal

/-- What the detector shows of itself. -/
def snapshot (detector : FaultDetector) : FaultSnapshot where
  status := detector.status
  lockTimeouts := detector.timeoutCount
  systemErrors := detector.streaks.toList.filter (·.2 ≠ 0)

end FaultDetector

end ModemLink
