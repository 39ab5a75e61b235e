/-
Module: ModemLink.Clock
Purpose: Instants and spans of time, in whole microseconds.
Main exports: Instant, Span, since, ofMillis, toMillis
-/

namespace ModemLink

/-- Microseconds since a fixed start. -/
abbrev Instant := Nat

/-- A number of microseconds. -/
abbrev Span := Nat

namespace Span

/-- A span given in milliseconds. -/
def ofMillis (ms : Nat) : Span :=
  ms * 1000

/-- Whole milliseconds in a span. -/
def toMillis (span : Span) : Nat :=
  span / 1000

end Span

/-- The time from `start` to `now`; none has passed where `start` is still to come. -/
def Instant.since (now start : Instant) : Span :=
  now - start

end ModemLink
