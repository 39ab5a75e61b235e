/-
Module: ModemLink.Scenario
Purpose: Scripts for a bridge and a simulated modem.
Main exports: Step, Scenario, Scenario.requestCount, SimulationError
-/
import ModemLink.EventLoop
import ModemLink.Modem.Profile

namespace ModemLink

/-- One action of a script. -/
inductive Step where
  /-- Hand in some requests of one kind with one payload. -/
  | submit (kind : RequestKind) (count : UInt32) (payload : String)
  | wait (ms : UInt64)
  /-- Wait until every request handed in so far has an outcome. -/
  | settle
  /-- The modem sends an indication. -/
  | indicate (code : UInt32) (ackExpected : Bool)
  /-- The modem crashes. -/
  | channelLost
  /-- The modem comes back. -/
  | channelRestart
deriving DecidableEq, Repr

/-- A script with the settings of both sides. -/
structure Scenario where
  /-- The name, under which the requests are made. -/
  name : String
  description : Option String := none
  /-- Seed of the modem's chance. -/
  seed : Option UInt64 := none
  bridge : BridgeConfig := {}
  modem : ModemProfile := {}
  /-- The longest time spent in waiting for outcomes at a stretch. -/
  settleTimeoutMs : UInt64 := 5000
  steps : List Step

/-- Why a scenario cannot be played. -/
inductive SimulationError where
  /-- The file cannot be read as text. -/
  | unreadable
  /-- The text is not of the right form. -/
  | malformed
  /-- The profile of the modem makes no sense. -/
  | profile (reason : String)
  | config (error : ConfigError)
  | bridge (error : BridgeError)
deriving DecidableEq, Repr

/-- The error in words; for the first two the details are the system's. -/
def SimulationError.message : SimulationError → String
  | unreadable => "failed to read the scenario"
  | malformed => "invalid YAML"
  | profile reason => s!"invalid modem profile: {reason}"
  | config error => error.message
  | bridge error => s!"bridge error: {error.message}"

/-- A fault found in a profile, as an error. -/
def ProfileFault.toError (fault : ProfileFault) : SimulationError :=
  .profile fault.message

/-- How many requests a step hands in. -/
def Step.requestCount : Step → Nat
  | submit _ count _ => count.toNat
  | _ => 0

namespace Scenario

/-- How many requests a script hands in. -/
def requestCount (scenario : Scenario) : Nat :=
  scenario.steps.foldl (fun count step => count + step.requestCount) 0

/-- The first thing wrong with the settings, those of the bridge first. -/
def validate (scenario : Scenario) : Except SimulationError Unit :=
  match scenario.bridge.validate with
  | .error fault => .error (.config fault.toError)
  | .ok () =>
    match scenario.modem.validate with
    | .error fault => .error fault.toError
    | .ok () => .ok ()

end Scenario

end ModemLink
