/-
Module: ModemLink.Text.Quoted
Purpose: Text between double quotes, on one line and in visible characters only.
Main exports: quote
-/
import ModemLink.Text.Hidden

namespace ModemLink.Text

/-- Hexadecimal digits of a number, lower case, without leading zeros. -/
def hexDigits (n : Nat) : String :=
  String.ofList (Nat.toDigits 16 n)

/-- One character inside quotes: the two characters with a meaning there take a backslash, the common
controls have short names, and other hidden characters are given by number. -/
def quoteChar (c : Char) : String :=
  match c with
  | '"' => "\\\""
  | '\\' => "\\\\"
  | '\n' => "\\n"
  | '\r' => "\\r"
  | '\t' => "\\t"
  | '\x00' => "\\0"
  | _ => if isHidden c then "\\u\x7b" ++ hexDigits c.toNat ++ "\x7d" else c.toString

/-- A text between double quotes. -/
def quote (s : String) : String :=
  "\"" ++ String.join (s.toList.map quoteChar) ++ "\""

end ModemLink.Text
