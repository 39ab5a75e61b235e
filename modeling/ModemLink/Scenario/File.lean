/-
Module: ModemLink.Scenario.File
Purpose: Profiles and scenarios as YAML files hold them.
Main exports: ModemProfile.ofYaml, Step.ofData?, Step.ofNode?, Scenario.ofYaml, Scenario.ofBytes
-/
import ModemLink.Config.File
import ModemLink.Scenario

namespace ModemLink

open Yaml

/-! ## Profiles -/

namespace ModemProfile

/-- A set of kinds. -/
def readKinds? (node : Node) : Option (RequestKind.Table Bool) := do
  let kinds ← readList? readKind? node
  some (kinds.foldl (fun table kind => table.set kind true) (.const false))

/-- A profile, which need not make sense. -/
def ofNode? (node : Node) : Option ModemProfile := do
  let fields ← Fields.ofNode?
    ["max_version", "kind_max_versions", "errors", "silent", "latency_ms", "jitter_ms",
      "ack_expected_probability", "request_acks"] node
  let unset : ModemProfile := {}
  some {
    maxVersion := ← fields.get "max_version" readVersion? unset.maxVersion
    kindMaxVersions :=
      ← fields.get "kind_max_versions" (readTable? readVersion?) unset.kindMaxVersions
    errors := ← fields.get "errors" (readTable? readCode?) unset.errors
    silent := ← fields.get "silent" readKinds? unset.silent
    latencyMs := ← fields.get "latency_ms" read64? unset.latencyMs
    jitterMs := ← fields.get "jitter_ms" read64? unset.jitterMs
    ackProbability := ← fields.get "ack_expected_probability" Node.real? unset.ackProbability
    requestAcks := ← fields.get "request_acks" Source.bool? unset.requestAcks }

/-- A profile from a text.  It has to make sense. -/
def ofYaml (text : String) : Except SimulationError ModemProfile :=
  match Node.ofText? text >>= ofNode? with
  | none => .error .malformed
  | some profile =>
    match profile.validate with
    | .error fault => .error fault.toError
    | .ok () => .ok profile

end ModemProfile

/-! ## Steps -/

namespace Step

/-!
A step is a record with its action's name beside its fields, or a list with the name first and the
fields in order.  In a record, entries that are no fields are ignored, and a number stands for the
field in that place.
-/

/-- The fields among some entries, each at most once. -/
def fields? (names : List String) : Data → Option (List (String × Data))
  | .record entries => do
    let fields ← entries.filterMapM fun (key, value) =>
      match key with
      | .text name => some (if names.contains name then some (name, value) else none)
      | .natural n => some (names[n]?.map (·, value))
      | _ => none
    if (fields.map Prod.fst).Nodup then some fields else none
  | .list items => if items.length ≤ names.length then some (names.zip items) else none
  | _ => none

/-- The kind of request in a step: named by a text, or by the only entry of a record, with nothing or
an empty record in it.  A number in place of the name counts the kinds from zero. -/
def kind? (data : Data) : Option RequestKind :=
  match data with
  | .record [(name, .null)] | .record [(name, .record [])] =>
    match name with
    | .natural n => RequestKind.all[n]?
    | .text _ => readKind? name
    | _ => none
  | _ => readKind? data

/-- A step of an action. -/
def ofAction? (action : String) (data : Data) : Option Step :=
  match action with
  | "submit" => do
    let fields ← fields? ["kind", "count", "payload"] data
    some (.submit (← fields.lookup "kind" >>= kind?)
      (← ((fields.lookup "count").mapM read32?).map (·.getD 1))
      (← ((fields.lookup "payload").mapM Source.text?).map (·.getD "")))
  | "wait" => do
    let fields ← fields? ["ms"] data
    some (.wait (← fields.lookup "ms" >>= read64?))
  | "settle" => bare? .settle data
  | "indicate" => do
    let fields ← fields? ["code", "ack_expected"] data
    some (.indicate (← fields.lookup "code" >>= read32?)
      (← ((fields.lookup "ack_expected").mapM Source.bool?).map (·.getD false)))
  | "channel_lost" => bare? .channelLost data
  | "channel_restart" => bare? .channelRestart data
  | _ => none
where
  /-- A step without fields. -/
  bare? (step : Step) : Data → Option Step
    | .record _ | .list [] => some step
    | _ => none

/-- A step from data of unknown type. -/
def ofData? : Data → Option Step
  | .record entries =>
    let isAction : Data × Data → Bool
      | (.text "action", _) => true
      | _ => false
    match entries.filter isAction with
    | [(_, .text action)] => ofAction? action (.record (entries.filter (!isAction ·)))
    | _ => none
  | .list (.text action :: rest) => ofAction? action (.list rest)
  | _ => none

/-- An entry of a step in a text.  The name of an action is text, however it looks. -/
def entry? (key value : Node) : Option (Data × Data) := do
  match ← key.toData? with
  | .text "action" => some (.text "action", .text (← value.text?))
  | key => some (key, ← value.toData?)

/-- A step in a text. -/
def ofNode? : Node → Option Step
  | .mapping tag entries =>
    if Node.isLocal tag then none
    else do ofData? (.record (← entries.mapM fun (key, value) => entry? key value))
  | .sequence tag (action :: rest) =>
    if Node.isLocal tag then none
    else do ofData? (.list (.text (← action.text?) :: (← rest.mapM Node.toData?)))
  | _ => none

end Step

/-! ## Scenarios -/

namespace Scenario

/-- A scenario, which need not make sense. -/
def ofNode? (node : Node) : Option Scenario := do
  let fields ← Fields.ofNode?
    ["name", "description", "seed", "bridge", "modem", "settle_timeout_ms", "steps"] node
  let unset : Scenario := { name := "", steps := [] }
  some {
    name := ← fields.require "name" Node.text?
    description := ← fields.optional "description" Node.text?
    seed := ← fields.optional "seed" read64?
    bridge := ← fields.get "bridge" BridgeConfig.ofNode? unset.bridge
    modem := ← fields.get "modem" ModemProfile.ofNode? unset.modem
    settleTimeoutMs := ← fields.get "settle_timeout_ms" read64? unset.settleTimeoutMs
    steps := ← fields.require "steps" (readList? Step.ofNode?) }

/-- A scenario from a text.  Its settings have to make sense. -/
def ofYaml (text : String) : Except SimulationError Scenario :=
  match Node.ofText? text >>= ofNode? with
  | none => .error .malformed
  | some scenario => scenario.validate.map fun () => scenario

/-- A scenario from the bytes of a file, `none` standing for no file. -/
def ofBytes (bytes : Option ByteArray) : Except SimulationError Scenario :=
  match bytes >>= String.fromUTF8? with
  | some text => ofYaml text
  | none => .error .unreadable

end Scenario

end ModemLink
