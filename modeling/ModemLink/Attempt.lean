/-
Module: ModemLink.Attempt
Purpose: A caller's request, and one try at getting it answered.
Main exports: Ticket, Submission, Attempt, Attempt.ofSubmission, Attempt.reissue, age, latency
-/
import ModemLink.Clock
import ModemLink.Outcome

namespace ModemLink

/-- Names the caller's callback.  The callback of a ticket runs once, with the request's outcome. -/
abbrev Ticket := Nat

/-- A request as a caller hands it in. -/
structure Submission where
  serial : Serial
  kind : RequestKind
  payload : Payload
  origin : Origin
  submittedAt : Instant
  ticket : Ticket
deriving DecidableEq

/-- One try at a request: what was sent at which version, and when. -/
structure Attempt where
  serial : Serial
  kind : RequestKind
  version : Version
  payload : Payload
  origin : Origin
  ticket : Ticket
  /-- When this try was issued. -/
  issuedAt : Instant
  /-- When the caller handed the request in, at the latest when the first try was issued. -/
  firstSubmittedAt : Instant
  /-- Counts the tries at this request from 1. -/
  number : UInt32
  /-- Whether this try owns a reference to the primary wake lock. -/
  holdsLock : Bool
  /-- Whether the modem said that the request reached it. -/
  acknowledged : Bool
deriving DecidableEq

namespace Attempt

/-- The first try at a request. -/
def ofSubmission (submission : Submission) (version : Version) (now : Instant) : Attempt where
  serial := submission.serial
  kind := submission.kind
  version := version
  payload := submission.payload
  origin := submission.origin
  ticket := submission.ticket
  issuedAt := now
  firstSubmittedAt := min submission.submittedAt now
  number := 1
  holdsLock := false
  acknowledged := false

/-- The next try at the same request. -/
def reissue (attempt : Attempt) (serial : Serial) (version : Version) (now : Instant) : Attempt :=
  { attempt with
    serial := serial
    version := version
    issuedAt := now
    number := attempt.number + 1
    holdsLock := false
    acknowledged := false }

/-- Time since this try was issued. -/
def age (attempt : Attempt) (now : Instant) : Span :=
  now.since attempt.issuedAt

/-- Time since the caller handed the request in. -/
def latency (attempt : Attempt) (now : Instant) : Span :=
  now.since attempt.firstSubmittedAt

/-- Order in which attempts fail together: the one issued first, then the smaller serial. -/
def precedes (a b : Attempt) : Bool :=
  a.issuedAt < b.issuedAt || (a.issuedAt == b.issuedAt && a.serial.value ≤ b.serial.value)

end Attempt

end ModemLink
