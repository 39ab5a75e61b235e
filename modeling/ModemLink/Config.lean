/-
Module: ModemLink.Config
Purpose: Settings of a bridge, their defaults, and which of them make sense.
Main exports: DetectorConfig, BridgeConfig, ConfigFault, ConfigError, validate
-/
import ModemLink.Clock
import ModemLink.Frame
import ModemLink.Text.Blank

namespace ModemLink

/-- Why settings make no sense. -/
inductive ConfigFault where
  | emptyName
  | zeroWakeLockTimeout
  | zeroAckWakeLockTimeout
  | zeroRequestMaxAge
  | reservedSerialSeed
  | zeroThreshold
  | lockConfirmBelowThreshold (confirm threshold : UInt32)
  | errorConfirmBelowThreshold (confirm threshold : UInt32)
  | zeroWindow
deriving DecidableEq, Repr

namespace ConfigFault

/-- The fault in words. -/
def message : ConfigFault → String
  | emptyName => "name must not be empty"
  | zeroWakeLockTimeout => "wake_lock_timeout_ms must be positive"
  | zeroAckWakeLockTimeout => "ack_wake_lock_timeout_ms must be positive"
  | zeroRequestMaxAge => "request_max_age_ms must be positive"
  | reservedSerialSeed => "serial_seed 0 is reserved"
  | zeroThreshold => "bug detector thresholds must be positive"
  | lockConfirmBelowThreshold confirm threshold =>
    s!"lock_timeout_confirm_threshold ({confirm}) is below lock_timeout_threshold ({threshold})"
  | errorConfirmBelowThreshold confirm threshold =>
    s!"system_error_confirm_threshold ({confirm}) is below system_error_threshold ({threshold})"
  | zeroWindow => "lock_timeout_window_ms must be positive when set"

end ConfigFault

/-- Why there are no settings to work with. -/
inductive ConfigError where
  /-- The file cannot be read as text. -/
  | unreadable
  /-- The text is not of the right form. -/
  | malformed
  /-- The settings make no sense. -/
  | invalid (reason : String)
deriving DecidableEq, Repr

/-- The error in words; for the first two the details are the system's. -/
def ConfigError.message : ConfigError → String
  | unreadable => "failed to read the configuration"
  | malformed => "invalid configuration YAML"
  | invalid reason => s!"invalid configuration: {reason}"

/-- A fault found in settings, as an error. -/
def ConfigFault.toError (fault : ConfigFault) : ConfigError :=
  .invalid fault.message

/-- Settings of the fault detector. -/
structure DetectorConfig where
  /-- Timeouts of the primary lock in a row that raise a suspicion. -/
  lockTimeoutThreshold : UInt32 := 10
  /-- Timeouts in a row that confirm it. -/
  lockTimeoutConfirmThreshold : UInt32 := 20
  /-- Timeouts longer ago than this do not count, where it is set. -/
  lockTimeoutWindowMs : Option UInt64 := none
  /-- Designated errors in a row, for one kind of request, that raise a suspicion. -/
  systemErrorThreshold : UInt32 := 10
  /-- Designated errors in a row that confirm it. -/
  systemErrorConfirmThreshold : UInt32 := 20
  /-- The designated errors. -/
  systemErrorCodes : List AnswerCode := [.systemError]
deriving DecidableEq, Repr, Inhabited

namespace DetectorConfig

/-- The window as a span. -/
def lockTimeoutWindow (config : DetectorConfig) : Option Span :=
  config.lockTimeoutWindowMs.map fun ms => Span.ofMillis ms.toNat

/-- The first thing wrong with the settings. -/
def validate (config : DetectorConfig) : Except ConfigFault Unit :=
  if config.lockTimeoutThreshold = 0 ∨ config.systemErrorThreshold = 0 then
    .error .zeroThreshold
  else if config.lockTimeoutConfirmThreshold < config.lockTimeoutThreshold then
    .error (.lockConfirmBelowThreshold config.lockTimeoutConfirmThreshold
      config.lockTimeoutThreshold)
  else if config.systemErrorConfirmThreshold < config.systemErrorThreshold then
    .error (.errorConfirmBelowThreshold config.systemErrorConfirmThreshold
      config.systemErrorThreshold)
  else if config.lockTimeoutWindowMs = some 0 then
    .error .zeroWindow
  else
    .ok ()

end DetectorConfig

/-- Settings of a bridge. -/
structure BridgeConfig where
  /-- Name of the bridge, in metrics and diagnostics. -/
  name : String := "radio0"
  /-- The first serial; a random one where it is not set. -/
  serialSeed : Option UInt32 := none
  /-- Ceiling of a hold of the primary lock. -/
  wakeLockTimeoutMs : UInt64 := 60000
  /-- How long the ack lock is held after an acknowledgement. -/
  ackWakeLockTimeoutMs : UInt64 := 200
  /-- How long a request waits for an answer. -/
  requestMaxAgeMs : UInt64 := 90000
  /-- No version above this one is used, where it is set. -/
  versionCap : Option Version := none
  /-- Settings of the fault detector. -/
  detector : DetectorConfig := {}
deriving DecidableEq, Repr, Inhabited

namespace BridgeConfig

def wakeLockTimeout (config : BridgeConfig) : Span :=
  Span.ofMillis config.wakeLockTimeoutMs.toNat

def ackWakeLockTimeout (config : BridgeConfig) : Span :=
  Span.ofMillis config.ackWakeLockTimeoutMs.toNat

def requestMaxAge (config : BridgeConfig) : Span :=
  Span.ofMillis config.requestMaxAgeMs.toNat

/-! Spans given to the builders lose what is finer than a millisecond. -/

def withWakeLockTimeout (config : BridgeConfig) (span : Span) : BridgeConfig :=
  { config with wakeLockTimeoutMs := span.toMillis.toUInt64 }

def withAckWakeLockTimeout (config : BridgeConfig) (span : Span) : BridgeConfig :=
  { config with ackWakeLockTimeoutMs := span.toMillis.toUInt64 }

def withRequestMaxAge (config : BridgeConfig) (span : Span) : BridgeConfig :=
  { config with requestMaxAgeMs := span.toMillis.toUInt64 }

/-- The first thing wrong with the settings. -/
def validate (config : BridgeConfig) : Except ConfigFault Unit :=
  if Text.trimString config.name = "" then
    .error .emptyName
  else if config.wakeLockTimeoutMs = 0 then
    .error .zeroWakeLockTimeout
  else if config.ackWakeLockTimeoutMs = 0 then
    .error .zeroAckWakeLockTimeout
  else if config.requestMaxAgeMs = 0 then
    .error .zeroRequestMaxAge
  else if config.serialSeed = some 0 then
    .error .reservedSerialSeed
  else
    config.detector.validate

end BridgeConfig

end ModemLink
