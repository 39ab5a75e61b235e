/-
Module: ModemLink.RequestKind
Purpose: The kinds of request a modem understands, with their opcodes, labels and ladders.
Main exports: RequestKind, RequestKind.all, opcode, label, ladder, ofOpcode, ofLabel
-/
import ModemLink.Ladder

namespace ModemLink

/-- The kinds of request, in the order of their opcodes. -/
inductive RequestKind where
  | getSimStatus
  | getSignalStrength
  | setRadioPower
  | sendSms
  | setupDataCall
  | deactivateDataCall
  | getDeviceIdentity
  | getCellInfoList
  | getModemActivityInfo
  | setCarrierInfoForImsiEncryption
  | startNetworkScan
  | enableUiccApplications
  | getBarringInfo
  | getSlicingConfig
deriving DecidableEq, Repr, Inhabited

namespace RequestKind

/-- Every kind, in opcode order. -/
def all : List RequestKind :=
  [.getSimStatus, .getSignalStrength, .setRadioPower, .sendSms, .setupDataCall,
    .deactivateDataCall, .getDeviceIdentity, .getCellInfoList, .getModemActivityInfo,
    .setCarrierInfoForImsiEncryption, .startNetworkScan, .enableUiccApplications,
    .getBarringInfo, .getSlicingConfig]

theorem mem_all (kind : RequestKind) : kind ∈ all := by
  cases kind <;> decide

/-- The number that stands for the kind on the wire. -/
def opcode : RequestKind → UInt32
  | getSimStatus => 1
  | getSignalStrength => 19
  | setRadioPower => 23
  | sendSms => 25
  | setupDataCall => 27
  | deactivateDataCall => 41
  | getDeviceIdentity => 98
  | getCellInfoList => 109
  | getModemActivityInfo => 135
  | setCarrierInfoForImsiEncryption => 141
  | startNetworkScan => 142
  | enableUiccApplications => 208
  | getBarringInfo => 211
  | getSlicingConfig => 224

/-- The name of the kind in files, reports and metrics. -/
def label : RequestKind → String
  | getSimStatus => "get_sim_status"
  | getSignalStrength => "get_signal_strength"
  | setRadioPower => "set_radio_power"
  | sendSms => "send_sms"
  | setupDataCall => "setup_data_call"
  | deactivateDataCall => "deactivate_data_call"
  | getDeviceIdentity => "get_device_identity"
  | getCellInfoList => "get_cell_info_list"
  | getModemActivityInfo => "get_modem_activity_info"
  | setCarrierInfoForImsiEncryption => "set_carrier_info_for_imsi_encryption"
  | startNetworkScan => "start_network_scan"
  | enableUiccApplications => "enable_uicc_applications"
  | getBarringInfo => "get_barring_info"
  | getSlicingConfig => "get_slicing_config"

instance : ToString RequestKind := ⟨label⟩

/-- The versions at which the kind can be spoken. -/
def ladder : RequestKind → Ladder
  | getSimStatus => ⟨[⟨1, 0⟩, ⟨1, 2⟩, ⟨1, 4⟩, ⟨1, 5⟩, ⟨1, 6⟩]⟩
  | getSignalStrength => ⟨[⟨1, 0⟩, ⟨1, 2⟩, ⟨1, 4⟩, ⟨1, 6⟩]⟩
  | setRadioPower => ⟨[⟨1, 0⟩, ⟨1, 5⟩, ⟨1, 6⟩]⟩
  | sendSms => ⟨[⟨1, 0⟩, ⟨1, 6⟩]⟩
  | setupDataCall => ⟨[⟨1, 0⟩, ⟨1, 2⟩, ⟨1, 4⟩, ⟨1, 5⟩, ⟨1, 6⟩]⟩
  | deactivateDataCall => ⟨[⟨1, 0⟩, ⟨1, 2⟩]⟩
  | getDeviceIdentity => ⟨[⟨1, 0⟩]⟩
  | getCellInfoList => ⟨[⟨1, 0⟩, ⟨1, 2⟩, ⟨1, 4⟩, ⟨1, 5⟩, ⟨1, 6⟩]⟩
  | getModemActivityInfo => ⟨[⟨1, 0⟩]⟩
  | setCarrierInfoForImsiEncryption => ⟨[⟨1, 1⟩, ⟨1, 6⟩]⟩
  | startNetworkScan => ⟨[⟨1, 1⟩, ⟨1, 2⟩, ⟨1, 4⟩, ⟨1, 5⟩]⟩
  | enableUiccApplications => ⟨[⟨1, 5⟩]⟩
  | getBarringInfo => ⟨[⟨1, 5⟩]⟩
  | getSlicingConfig => ⟨[⟨1, 6⟩]⟩

/-- The highest version at which the kind can be spoken. -/
def maxVersion (kind : RequestKind) : Version :=
  kind.ladder.highest.getD ⟨1, 0⟩

/-- The kind of an opcode. -/
def ofOpcode (code : UInt32) : Option RequestKind :=
  all.find? (·.opcode = code)

/-- The kind of a label. -/
def ofLabel (text : String) : Option RequestKind :=
  all.find? (·.label = text)

theorem ofOpcode_opcode (kind : RequestKind) : ofOpcode kind.opcode = some kind := by
  cases kind <;> decide

theorem ofLabel_label (kind : RequestKind) : ofLabel kind.label = some kind := by
  cases kind <;> decide

/-- Every ladder climbs. -/
theorem ladder_ascending (kind : RequestKind) : kind.ladder.rungs.Pairwise (· < ·) := by
  cases kind <;> decide

end RequestKind

end ModemLink
