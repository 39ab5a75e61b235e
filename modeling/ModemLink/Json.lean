/-
Module: ModemLink.Json
Purpose: JSON values and their text.
Main exports: Json, Json.pretty
-/
import ModemLink.Text.Hex
import ModemLink.Text.Shortest

namespace ModemLink

/-- A JSON value.  The fields of an object keep their order. -/
inductive Json where
  | null
  | bool (value : Bool)
  | number (value : Int)
  | real (value : Float)
  | text (value : String)
  | list (items : List Json)
  | object (fields : List (String × Json))
deriving Inhabited

namespace Json

/-- A number that is not negative. -/
def nat (n : Nat) : Json :=
  number n

/-! ## Text -/

/-- One character of a string: quotes, backslashes and controls are escaped. -/
def escape (c : Char) : List Char :=
  match c with
  | '"' => ['\\', '"']
  | '\\' => ['\\', '\\']
  | '\x08' => ['\\', 'b']
  | '\x0c' => ['\\', 'f']
  | '\n' => ['\\', 'n']
  | '\r' => ['\\', 'r']
  | '\t' => ['\\', 't']
  | _ => if c.toNat < 0x20 then ['\\', 'u'] ++ Text.Hex.digits 4 c.toNat else [c]

/-- A string in quotes. -/
def quote (s : String) : String :=
  "\"" ++ String.ofList (s.toList.flatMap escape) ++ "\""

/-- A new line at a depth of nesting, two spaces a level. -/
def newLine (depth : Nat) : String :=
  "\n" ++ String.ofList (List.replicate (2 * depth) ' ')

/-- Lines between brackets, the inner ones a level deeper; nothing stands between the brackets of an
empty collection. -/
def bracket (opening closing : String) (depth : Nat) (lines : List String) : String :=
  if lines.isEmpty then opening ++ closing
  else
    opening ++ newLine (depth + 1) ++ String.intercalate ("," ++ newLine (depth + 1)) lines
      ++ newLine depth ++ closing

mutual

/-- The text of a value at a depth of nesting. -/
def prettyAt (depth : Nat) : Json → String
  | null => "null"
  | bool value => if value then "true" else "false"
  | number value => toString value
  | real value => Text.floatText value
  | text value => quote value
  | list items => bracket "[" "]" depth (prettyItems (depth + 1) items)
  | object fields => bracket "\x7b" "\x7d" depth (prettyFields (depth + 1) fields)

/-- The texts of some values. -/
def prettyItems (depth : Nat) : List Json → List String
  | [] => []
  | item :: rest => prettyAt depth item :: prettyItems depth rest

/-- The texts of some fields. -/
def prettyFields (depth : Nat) : List (String × Json) → List String
  | [] => []
  | (name, value) :: rest =>
    (quote name ++ ": " ++ prettyAt depth value) :: prettyFields depth rest

end

/-- The text of a value, every item and field on a line of its own. -/
def pretty (json : Json) : String :=
  json.prettyAt 0

end Json

end ModemLink
