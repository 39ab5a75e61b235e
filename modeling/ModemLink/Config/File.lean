/-
Module: ModemLink.Config.File
Purpose: Settings of a bridge as a YAML file holds them.
Main exports: BridgeConfig.ofNode?, BridgeConfig.ofYaml, BridgeConfig.ofBytes
-/
import ModemLink.Config
import ModemLink.Yaml.Fields

namespace ModemLink

open Yaml

/-- Settings of the fault detector. -/
def DetectorConfig.ofNode? (node : Node) : Option DetectorConfig := do
  let fields ← Fields.ofNode?
    ["lock_timeout_threshold", "lock_timeout_confirm_threshold", "lock_timeout_window_ms",
      "system_error_threshold", "system_error_confirm_threshold", "system_error_codes"] node
  let unset : DetectorConfig := {}
  some {
    lockTimeoutThreshold :=
      ← fields.get "lock_timeout_threshold" read32? unset.lockTimeoutThreshold
    lockTimeoutConfirmThreshold :=
      ← fields.get "lock_timeout_confirm_threshold" read32? unset.lockTimeoutConfirmThreshold
    lockTimeoutWindowMs := ← fields.optional "lock_timeout_window_ms" read64?
    systemErrorThreshold :=
      ← fields.get "system_error_threshold" read32? unset.systemErrorThreshold
    systemErrorConfirmThreshold :=
      ← fields.get "system_error_confirm_threshold" read32? unset.systemErrorConfirmThreshold
    systemErrorCodes :=
      ← fields.get "system_error_codes" (readList? readCode?) unset.systemErrorCodes }

namespace BridgeConfig

/-- Settings of a bridge, which need not make sense. -/
def ofNode? (node : Node) : Option BridgeConfig := do
  let fields ← Fields.ofNode?
    ["name", "serial_seed", "wake_lock_timeout_ms", "ack_wake_lock_timeout_ms",
      "request_max_age_ms", "hal_version_cap", "bug_detector"] node
  let unset : BridgeConfig := {}
  some {
    name := ← fields.get "name" Node.text? unset.name
    serialSeed := ← fields.optional "serial_seed" read32?
    wakeLockTimeoutMs := ← fields.get "wake_lock_timeout_ms" read64? unset.wakeLockTimeoutMs
    ackWakeLockTimeoutMs :=
      ← fields.get "ack_wake_lock_timeout_ms" read64? unset.ackWakeLockTimeoutMs
    requestMaxAgeMs := ← fields.get "request_max_age_ms" read64? unset.requestMaxAgeMs
    versionCap := ← fields.optional "hal_version_cap" readVersion?
    detector := ← fields.get "bug_detector" DetectorConfig.ofNode? unset.detector }

/-- The settings, if they make sense. -/
def checked (config : BridgeConfig) : Except ConfigError BridgeConfig :=
  match config.validate with
  | .ok () => .ok config
  | .error fault => .error fault.toError

/-- Settings from a text.  They have to make sense. -/
def ofYaml (text : String) : Except ConfigError BridgeConfig :=
  match Node.ofText? text >>= ofNode? with
  | some config => config.checked
  | none => .error .malformed

/-- Settings from the bytes of a file, `none` standing for no file. -/
def ofBytes (bytes : Option ByteArray) : Except ConfigError BridgeConfig :=
  match bytes >>= String.fromUTF8? with
  | some text => ofYaml text
  | none => .error .unreadable

end BridgeConfig

end ModemLink
