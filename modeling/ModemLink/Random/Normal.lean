/-
Module: ModemLink.Random.Normal
Purpose: Normally distributed reals.
Main exports: Random.standardNormal, Random.normal
-/
import ModemLink.Random
import ModemLink.Text.Shortest

namespace ModemLink

namespace Random

/-!
The area under the bell curve is covered by 256 layers of equal size.  A word picks a layer and a
point across it; a point that lies under the curve for certain is taken at once, another one only if
a second draw puts it under the curve, and beyond the last layer the tail is sampled by logarithms.
-/

namespace Normal

/-- Where the tail begins. -/
def tailStart : Float := 3.6541528853610088

/-- The area of a layer. -/
def layerArea : Float := 0.00492867323399

/-- The bell curve, of height 1. -/
def density (x : Float) : Float := (-x * x / 2).exp

/-- The place right of the middle at which the curve has a height. -/
def densityInverse (y : Float) : Float := (-2 * y.log).sqrt

/-- A float rounded to eighteen decimal places, halves to even. -/
def rounded (x : Float) : Float :=
  let b := Text.Binary.ofBits x.toBits
  let num := b.mantissa * Nat.pow 10 18 * Nat.pow 2 b.exponent.toNat
  let den := Nat.pow 2 (-b.exponent).toNat
  let floor := num / den
  let twice := 2 * (num % den)
  let n := if den < twice ∨ (twice = den ∧ floor % 2 = 1) then floor + 1 else floor
  Float.ofScientific n true 18

/-- Right ends of `n` more layers above one that ends at `last`. -/
def layersAfter (last : Float) : Nat → List Float
  | 0 => []
  | n + 1 =>
    let next := densityInverse (layerArea / last + density last)
    next :: layersAfter next n

/-- Right ends of all layers, from the bottom up; the top is the middle of the curve. -/
def ends : List Float :=
  layerArea / density tailStart :: tailStart :: layersAfter tailStart 254 ++ [0]

/-- The ends of the layers, as they are used. -/
def xs : Array Float := (ends.map rounded).toArray

/-- The height of the curve at each of them. -/
def ys : Array Float := (ends.map fun x => rounded (density x)).toArray

/-- Sample the tail. -/
def tail (random : Random) (negative : Bool) : Nat → Float × Random
  | 0 => (tailStart, random)
  | fuel + 1 =>
    let (a, random) := random.openUnit
    let (b, random) := random.openUnit
    let x := a.log / tailStart
    let y := b.log
    if -2 * y < x * x then tail random negative fuel
    else (if negative then x - tailStart else tailStart - x, random)

/-- Sample the curve.  A try fails in about one of eighty cases. -/
def sample (random : Random) : Nat → Float × Random
  | 0 => (0, random)
  | fuel + 1 =>
    let (bits, random) := random.word
    let layer := (bits &&& 0xff).toNat
    let u := withExponent 1 (bits >>> 12) - 3
    let x := u * xs.getD layer 0
    if x.abs < xs.getD (layer + 1) 0 then (x, random)
    else if layer = 0 then tail random (u < 0) 1000
    else
      let (v, random) := random.unit
      let below := ys.getD (layer + 1) 0
      if below + (ys.getD layer 0 - below) * v < density x then (x, random)
      else sample random fuel

end Normal

/-- A real of mean 0 and deviation 1. -/
def standardNormal (random : Random) : Float × Random :=
  Normal.sample random 1000

/-- A real of the given mean and deviation. -/
def normal (random : Random) (mean deviation : Float) : Float × Random :=
  let (x, random) := random.standardNormal
  (mean + deviation * x, random)

end Random

end ModemLink
