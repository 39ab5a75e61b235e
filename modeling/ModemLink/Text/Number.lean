/-
Module: ModemLink.Text.Number
Purpose: Numbers as they are written in text files.
Main exports: digitsIn?, natural?, integer?, real?
-/

namespace ModemLink.Text

/-!
Whole numbers are decimal, or carry one of the marks `0x`, `0o` and `0b`; a decimal one has no
leading zero.  A sign may stand in front, a plus sign also before a number that may not be negative.
-/

/-- Value of a digit in bases up to sixteen. -/
def digit? (c : Char) : Option Nat :=
  if c.isDigit then some (c.toNat - '0'.toNat)
  else if 'a' ≤ c ∧ c ≤ 'f' then some (c.toNat - 'a'.toNat + 10)
  else if 'A' ≤ c ∧ c ≤ 'F' then some (c.toNat - 'A'.toNat + 10)
  else none

/-- Value of digits in a base, most significant first; there has to be one. -/
def digitsIn? (base : Nat) (cs : List Char) : Option Nat :=
  if cs.isEmpty then none
  else
    cs.foldlM (fun n c => (digit? c).bind fun d => if d < base then some (base * n + d) else none) 0

/-- Digits behind a leading zero: they are text, not a number. -/
def isPadded (cs : List Char) : Bool :=
  match cs with
  | '0' :: c :: rest => (c :: rest).all Char.isDigit
  | _ => false

/-- A number without a sign. -/
def unsigned? (cs : List Char) : Option Nat :=
  match cs with
  | '0' :: 'x' :: digits => digitsIn? 16 digits
  | '0' :: 'o' :: digits => digitsIn? 8 digits
  | '0' :: 'b' :: digits => digitsIn? 2 digits
  | _ => if isPadded cs then none else digitsIn? 10 cs

/-- A number that is not negative; a minus sign is refused even before zero. -/
def natural? (cs : List Char) : Option Nat :=
  match cs with
  | '+' :: rest => unsigned? rest
  | _ => unsigned? cs

/-- A whole number. -/
def integer? (cs : List Char) : Option Int :=
  match cs with
  | '-' :: rest => (unsigned? rest).map fun n => -(n : Int)
  | _ => (natural? cs).map Int.ofNat

/-! ## Reals -/

/-- The largest exponent that is not out of range for every mantissa of `digits` digits. -/
def exponentBound (digits : Nat) : Nat := digits + 400

/-- The number `mantissa * 10 ^ exponent` as a float. -/
def scale (mantissa digits : Nat) (exponent : Int) : Float :=
  let bound : Nat := exponentBound digits
  let exponent := max (-(bound : Int)) (min bound exponent)
  if exponent < 0 then Float.ofScientific mantissa true exponent.natAbs
  else Float.ofScientific mantissa false exponent.natAbs

/-- The exponent of a real: nothing, or a mark, a sign and digits. -/
def exponent? (cs : List Char) : Option Int :=
  match cs with
  | [] => some 0
  | mark :: rest =>
    if mark = 'e' ∨ mark = 'E' then
      match rest with
      | '-' :: digits => (digitsIn? 10 digits).map fun n => -(n : Int)
      | '+' :: digits => (digitsIn? 10 digits).map Int.ofNat
      | digits => (digitsIn? 10 digits).map Int.ofNat
    else none

/-- A real without a sign: digits on at least one side of the point, and an exponent. -/
def unsignedReal? (cs : List Char) : Option Float := do
  let whole := cs.takeWhile Char.isDigit
  let rest := cs.dropWhile Char.isDigit
  let (fraction, rest) := match rest with
    | '.' :: rest => (rest.takeWhile Char.isDigit, rest.dropWhile Char.isDigit)
    | _ => ([], rest)
  let mantissa ← digitsIn? 10 (whole ++ fraction)
  let exponent ← exponent? rest
  some (scale mantissa (whole ++ fraction).length (exponent - fraction.length))

/-- A real in decimal notation; one that is too large for a float is refused. -/
def decimalReal? (cs : List Char) : Option Float := do
  let x ← match cs with
    | '-' :: rest => (unsignedReal? rest).map fun x => -x
    | _ => unsignedReal? cs
  if x.isFinite then some x else none

/-- A real, an infinity or the value that is no number. -/
def real? (s : String) : Option Float :=
  let cs := s.toList
  let body := match cs with
    | '+' :: rest => rest
    | _ => cs
  if body ≠ cs ∧ (body.head? = some '+' ∨ body.head? = some '-') then none
  else if [".inf", ".Inf", ".INF"].contains (String.ofList body) then some (1 / 0)
  else if ["-.inf", "-.Inf", "-.INF"].contains s then some (-1 / 0)
  else if [".nan", ".NaN", ".NAN"].contains s then some (0 / 0)
  else decimalReal? body

end ModemLink.Text
