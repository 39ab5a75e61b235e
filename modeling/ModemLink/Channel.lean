/-
Module: ModemLink.Channel
Purpose: The way out to the modem, and a channel that only keeps a record.
Main exports: Channel, RecordingChannel, ChannelError, Dispatch, VersionTable.dispatch
-/
import ModemLink.Journal
import ModemLink.VersionTable

namespace ModemLink

/-- A way out to the modem.  A channel may refuse a request because the modem does not speak the
version asked for; that is the only version it can refuse. -/
class Channel (χ : Type) where
  /-- Hand over a request. -/
  send : χ → Outbound → SendReply × χ
  /-- Hand over an acknowledgement; the reason is given if it cannot be sent. -/
  sendAck : χ → Option String × χ

/-- A channel that keeps what it is given.  It can be made unreachable, and made to refuse a kind at
a version. -/
structure RecordingChannel where
  /-- The requests accepted, newest first. -/
  requests : List Outbound := []
  acks : Nat := 0
  /-- Why the modem cannot be reached, if it cannot. -/
  unavailable : Option String := none
  refused : List (RequestKind × Version) := []
deriving DecidableEq, Inhabited

namespace RecordingChannel

def send (channel : RecordingChannel) (request : Outbound) : SendReply × RecordingChannel :=
  match channel.unavailable with
  | some reason => (.unavailable reason, channel)
  | none =>
    if channel.refused.contains (request.kind, request.version) then
      (.versionRefused, channel)
    else
      (.accepted, { channel with requests := request :: channel.requests })

def sendAck (channel : RecordingChannel) : Option String × RecordingChannel :=
  match channel.unavailable with
  | some reason => (some reason, channel)
  | none => (none, { channel with acks := channel.acks + 1 })

/-- From now on refuse a kind at a version. -/
def refuse (channel : RecordingChannel) (kind : RequestKind) (version : Version) :
    RecordingChannel :=
  { channel with refused := (kind, version) :: channel.refused }

instance : Channel RecordingChannel := ⟨send, sendAck⟩

end RecordingChannel

/-- Why a channel did not take a frame. -/
inductive ChannelError where
  | unavailable (reason : String)
  | versionUnsupported (version : Version)
deriving DecidableEq, Repr

/-- The error in words. -/
def ChannelError.message : ChannelError → String
  | unavailable reason => s!"channel unavailable: {reason}"
  | versionUnsupported version => s!"request not supported at HAL {version}"

/-- What became of a request that was to be sent at its kind's version. -/
inductive Dispatch where
  | sent (version : Version)
  /-- The kind is not spoken at any version, so that nothing was handed over. -/
  | noUsableVersion
  | failed (error : ChannelError)
deriving DecidableEq, Repr

/-- What a reply means for a request handed over at a version. -/
def Dispatch.ofReply (version : Version) : SendReply → Dispatch
  | .accepted => .sent version
  | .unavailable reason => .failed (.unavailable reason)
  | .versionRefused => .failed (.versionUnsupported version)

/-- Hand a request to the channel at the version of its kind. -/
def VersionTable.dispatch {χ : Type} [Channel χ] (table : VersionTable) (channel : χ)
    (serial : Serial) (kind : RequestKind) (payload : Payload) (origin : Origin) :
    Dispatch × χ × List Effect :=
  match table.current kind with
  | none => (.noUsableVersion, channel, [])
  | some version =>
    let request : Outbound := ⟨serial, kind, version, payload, origin⟩
    match Channel.send channel request with
    | (reply, channel) => (.ofReply version reply, channel, [.handed request reply])

end ModemLink
