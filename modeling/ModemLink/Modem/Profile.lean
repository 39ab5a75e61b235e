/-
Module: ModemLink.Modem.Profile
Purpose: How a simulated modem behaves: what it knows, refuses and ignores, and how fast it is.
Main exports: ModemProfile, ProfileFault, Reaction, react, validate, Roll, roll
-/
import ModemLink.Clock
import ModemLink.Random.Normal
import ModemLink.RequestKind.Table
import ModemLink.AnswerCode

namespace ModemLink

/-- How a simulated modem behaves. -/
structure ModemProfile where
  /-- The modem speaks no version above this one. -/
  maxVersion : Version := ⟨1, 6⟩
  /-- Lower limits for single kinds. -/
  kindMaxVersions : RequestKind.Table (Option Version) := .const none
  /-- The kinds it answers with an error. -/
  errors : RequestKind.Table (Option AnswerCode) := .const none
  /-- The kinds it does not answer at all. -/
  silent : RequestKind.Table Bool := .const false
  /-- Mean time to an answer. -/
  latencyMs : UInt64 := 1
  /-- Its deviation. -/
  jitterMs : UInt64 := 0
  /-- How often an answer asks for an acknowledgement. -/
  ackProbability : Float := 0
  /-- Whether the modem says of every request that it got it. -/
  requestAcks : Bool := false

/-- Why a profile makes no sense. -/
inductive ProfileFault where
  | probability (value : Float)
  | successOverride (kind : RequestKind)

/-- The fault in words. -/
def ProfileFault.message : ProfileFault → String
  | probability value =>
    s!"ack_expected_probability must be within 0..=1, got {Text.floatText value}"
  | successOverride kind => s!"error override for {kind} is the success code"

/-- What a modem does about a request. -/
inductive Reaction where
  | respond (code : AnswerCode)
  | ignore
deriving DecidableEq, Repr

/-- What chance decides about an answer. -/
structure Roll where
  ackExpected : Bool
  latency : Span
deriving DecidableEq, Repr

namespace ModemProfile

/-- The highest version at which the modem speaks a kind. -/
def maxVersionFor (profile : ModemProfile) (kind : RequestKind) : Version :=
  match profile.kindMaxVersions.get kind with
  | some version => min version profile.maxVersion
  | none => profile.maxVersion

/-- A version that is too high is refused, whatever else holds of the kind; a silent kind is ignored,
and the others are answered with their error or with success. -/
def react (profile : ModemProfile) (kind : RequestKind) (version : Version) : Reaction :=
  if profile.maxVersionFor kind < version then .respond .requestNotSupported
  else if profile.silent.get kind then .ignore
  else .respond ((profile.errors.get kind).getD .success)

/-- The first thing wrong with a profile; the kinds are looked at in opcode order. -/
def validate (profile : ModemProfile) : Except ProfileFault Unit :=
  if 0 ≤ profile.ackProbability ∧ profile.ackProbability ≤ 1 then
    match RequestKind.all.find? fun kind => (profile.errors.get kind).any AnswerCode.isSuccess with
    | some kind => .error (.successOverride kind)
    | none => .ok ()
  else .error (.probability profile.ackProbability)

/-! ## Chance -/

/-- Whether an answer asks for an acknowledgement. -/
def rollAck (profile : ModemProfile) (random : Random) : Bool × Random :=
  if 0 < profile.ackProbability then random.chance profile.ackProbability else (false, random)

/-- The time to an answer: never negative, and exact where there is no jitter. -/
def rollLatency (profile : ModemProfile) (random : Random) : Span × Random :=
  if profile.jitterMs = 0 then (Span.ofMillis profile.latencyMs.toNat, random)
  else
    let (ms, random) := random.normal profile.latencyMs.toFloat profile.jitterMs.toFloat
    let ms := if ms < 0 then 0 else ms
    ((ms * 1000).toUInt64.toNat, random)

/-- Draw what has to be drawn for an answer. -/
def roll (profile : ModemProfile) (random : Random) : Roll × Random :=
  let (ackExpected, random) := profile.rollAck random
  let (latency, random) := profile.rollLatency random
  (⟨ackExpected, latency⟩, random)

end ModemProfile

end ModemLink
