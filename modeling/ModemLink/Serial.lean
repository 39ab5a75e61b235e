/-
Module: ModemLink.Serial
Purpose: Serial numbers of requests and the counter that hands them out.
Main exports: Serial, Serial.isNone, SerialSource, SerialSource.start, SerialSource.take
-/

namespace ModemLink

/-- The number under which a request travels.  Zero is reserved: it names no request. -/
structure Serial where
  value : UInt32
deriving DecidableEq, Repr, Inhabited

namespace Serial

/-- Whether this is the reserved serial. -/
def isNone (serial : Serial) : Bool :=
  serial.value = 0

instance : ToString Serial := ⟨fun serial => toString serial.value.toNat⟩

/-- The serial after this one: the successor, and 1 after the last. -/
def successor (serial : Serial) : Serial :=
  if serial.value = UInt32.ofNat (UInt32.size - 1) then ⟨1⟩ else ⟨serial.value + 1⟩

end Serial

/-- Hands out serials in order; `upcoming` is the one handed out next. -/
structure SerialSource where
  upcoming : Serial
deriving DecidableEq, Repr, Inhabited

namespace SerialSource

/-- A source that begins at a seed, or at 1 where the seed is the reserved serial. -/
def start (seed : UInt32) : SerialSource :=
  ⟨⟨if seed = 0 then 1 else seed⟩⟩

/-- Hand out one serial. -/
def take (source : SerialSource) : Serial × SerialSource :=
  (source.upcoming, ⟨source.upcoming.successor⟩)

/-- Hand out `n` serials, oldest first. -/
def takeMany (source : SerialSource) : Nat → List Serial × SerialSource
  | 0 => ([], source)
  | n + 1 =>
    let (serial, source) := source.take
    let (serials, source) := source.takeMany n
    (serial :: serials, source)

end SerialSource

end ModemLink
