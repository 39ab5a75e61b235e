/-
Module: ModemLink.Frame
Purpose: What crosses the channel between host and modem.
Main exports: Payload, Origin, Outbound, AnswerHeader, Indication
-/
import ModemLink.AnswerCode
import ModemLink.RequestKind
import ModemLink.Serial

namespace ModemLink

/-- Opaque bytes of a request, an answer or an indication. -/
abbrev Payload := ByteArray

instance : DecidableEq Payload := ByteArray.instDecidableEq

/-- The caller on whose behalf a request is made, where it is known. -/
structure Origin where
  name : Option String
deriving DecidableEq, Repr, Inhabited

namespace Origin

def unknown : Origin := ⟨none⟩

/-- The caller's name, or a dash. -/
def text (origin : Origin) : String :=
  origin.name.getD "-"

end Origin

/-- A request as it is handed to the channel. -/
structure Outbound where
  serial : Serial
  kind : RequestKind
  version : Version
  payload : Payload
  origin : Origin
deriving DecidableEq

/-- How an answer was sent: an acknowledgement may be expected for it. -/
inductive AnswerType where
  | solicited
  | solicitedAckExpected
deriving DecidableEq, Repr, Inhabited

namespace AnswerType

def label : AnswerType → String
  | solicited => "solicited"
  | solicitedAckExpected => "solicited_ack_expected"

def ackExpected : AnswerType → Bool
  | solicited => false
  | solicitedAckExpected => true

def ofAck (ackExpected : Bool) : AnswerType :=
  if ackExpected then solicitedAckExpected else solicited

def all : List AnswerType := [solicited, solicitedAckExpected]

end AnswerType

/-- How an indication was sent. -/
inductive IndicationType where
  | unsolicited
  | unsolicitedAckExpected
deriving DecidableEq, Repr, Inhabited

namespace IndicationType

def label : IndicationType → String
  | unsolicited => "unsolicited"
  | unsolicitedAckExpected => "unsolicited_ack_expected"

def ackExpected : IndicationType → Bool
  | unsolicited => false
  | unsolicitedAckExpected => true

def ofAck (ackExpected : Bool) : IndicationType :=
  if ackExpected then unsolicitedAckExpected else unsolicited

def all : List IndicationType := [unsolicited, unsolicitedAckExpected]

end IndicationType

/-- The header of an answer. -/
structure AnswerHeader where
  serial : Serial
  kind : RequestKind
  code : AnswerCode
  type : AnswerType
deriving DecidableEq, Repr

namespace AnswerHeader

/-- The header of an answer that asks for no acknowledgement. -/
def plain (serial : Serial) (kind : RequestKind) (code : AnswerCode) : AnswerHeader :=
  ⟨serial, kind, code, .solicited⟩

/-- The same header, asking for an acknowledgement. -/
def withAckExpected (header : AnswerHeader) : AnswerHeader :=
  { header with type := .solicitedAckExpected }

end AnswerHeader

/-- A message that the modem sends of its own accord. -/
structure Indication where
  code : UInt32
  payload : Payload
  type : IndicationType
deriving DecidableEq

end ModemLink
