/-
Module: ModemLink.Text.Hex
Purpose: Bytes as pairs of hexadecimal digits.
Main exports: Hex.encode, Hex.decode
-/
import ModemLink.Text.Number

namespace ModemLink.Text.Hex

/-- The lower-case digit of a value below sixteen. -/
def digitChar (n : Nat) : Char :=
  if n < 10 then Char.ofNat ('0'.toNat + n) else Char.ofNat ('a'.toNat + (n - 10))

/-- `width` digits of a number, most significant first. -/
def digits (width n : Nat) : List Char :=
  (List.range width).map fun i => digitChar (n / Nat.pow 16 (width - 1 - i) % 16)

/-- Two lower-case digits for each byte. -/
def encode (bytes : ByteArray) : String :=
  String.ofList (bytes.toList.flatMap fun byte => digits 2 byte.toNat)

/-- Bytes from pairs of digits; what is not a pair of digits ends the text. -/
def decodeChars : List Char → List UInt8
  | a :: b :: rest =>
    match digit? a, digit? b with
    | some high, some low => UInt8.ofNat (16 * high + low) :: decodeChars rest
    | _, _ => []
  | _ => []

/-- Bytes from pairs of digits. -/
def decode (s : String) : ByteArray :=
  ⟨(decodeChars s.toList).toArray⟩

end ModemLink.Text.Hex
