/-
Module: ModemLink.Text.Shortest
Purpose: The shortest decimal that reads back as a given float, in positional notation.
Main exports: Binary, Binary.shortest, floatText
-/

namespace ModemLink.Text

/-!
A finite float is a number `m * 2 ^ q`.  The decimals that read back as it lie in an interval around
it, whose ends belong to it if `m` is even.  Of the grids of multiples of a power of ten the coarsest
one with a point in the interval gives the fewest digits, and of its points there the one nearest to
the float is taken.
-/

/-- The size of a finite float: `mantissa * 2 ^ exponent`. -/
structure Binary where
  mantissa : Nat
  exponent : Int
deriving DecidableEq, Repr

namespace Binary

/-- The size of the float with the given bits. -/
def ofBits (bits : UInt64) : Binary :=
  let n : Nat := bits.toNat % Nat.pow 2 63
  let field : Nat := n / Nat.pow 2 52
  let fraction : Nat := n % Nat.pow 2 52
  if field = 0 then ⟨fraction, -1074⟩ else ⟨Nat.pow 2 52 + fraction, Int.ofNat field - 1075⟩

/-- Four times the mantissa of the lower end of the interval, of the number itself and of the upper
end.  Below a power of two the floats lie closer together. -/
def bounds (b : Binary) : Nat × Nat × Nat :=
  let centre := 4 * b.mantissa
  let below := if b.mantissa = Nat.pow 2 52 ∧ -1074 < b.exponent then 1 else 2
  (centre - below, centre, centre + 2)

/-- Numerator and denominator by which four times a mantissa is turned into multiples of
`10 ^ grid`. -/
def ratio (b : Binary) (grid : Int) : Nat × Nat :=
  let twos := b.exponent - 2
  (Nat.pow 2 twos.toNat * Nat.pow 10 (-grid).toNat,
    Nat.pow 2 (-twos).toNat * Nat.pow 10 grid.toNat)

/-- The multiple of `10 ^ grid` in the interval that is nearest to the number. -/
def onGrid? (b : Binary) (grid : Int) : Option Nat :=
  let (low, centre, high) := b.bounds
  let (num, den) := b.ratio grid
  let inside (n : Nat) : Bool :=
    if b.mantissa % 2 = 0 then low * num ≤ n * den ∧ n * den ≤ high * num
    else low * num < n * den ∧ n * den < high * num
  let floor := centre * num / den
  let gapDown := centre * num - floor * den
  let gapUp := (floor + 1) * den - centre * num
  match inside floor, inside (floor + 1) with
  | true, true => some (if gapUp < gapDown then floor + 1 else floor)
  | true, false => some floor
  | false, true => some (floor + 1)
  | false, false => none

/-- Digits and exponent of the shortest decimal that reads back as the number. -/
def shortest (b : Binary) : Nat × Int :=
  if b.mantissa = 0 then (0, 0)
  else
    ((List.range 700).findSome? fun i : Nat =>
      let grid : Int := 309 - Int.ofNat i
      (b.onGrid? grid).map fun n => (n, grid)).getD (0, 0)

end Binary

/-- The number `digits * 10 ^ exponent` in positional notation. -/
def positional (digits : Nat) (exponent : Int) : String :=
  let text := (toString digits).toList
  if 0 ≤ exponent then
    String.ofList (if digits = 0 then text else text ++ List.replicate exponent.toNat '0')
  else
    let places := exponent.natAbs
    let padded := List.replicate (places + 1 - text.length) '0' ++ text
    let whole := padded.length - places
    String.ofList (padded.take whole ++ '.' :: padded.drop whole)

/-- A float in positional notation, with as few digits as read back and without a point where none
is needed. -/
def floatText (x : Float) : String :=
  if x.isNaN then "NaN"
  else
    let sign := if Nat.pow 2 63 ≤ x.toBits.toNat then "-" else ""
    if x.isInf then sign ++ "inf"
    else
      let (digits, exponent) := (Binary.ofBits x.toBits).shortest
      sign ++ positional digits exponent

end ModemLink.Text
