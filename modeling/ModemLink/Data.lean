/-
Module: ModemLink.Data
Purpose: Values as files hold them, and how typed values are read from them.
Main exports: Data, Source, readLabelled?, readKind?, readVersion?, readCode?, readSerial?
-/
import ModemLink.Frame

namespace ModemLink

/-- A value whose type is not known beforehand. -/
inductive Data where
  | null
  | bool (value : Bool)
  /-- A number that is not negative, below 2^64. -/
  | natural (value : Nat)
  /-- A number written with a minus sign, not below -2^63. -/
  | negative (value : Int)
  | real (value : Float)
  | text (value : String)
  | list (items : List Data)
  | record (entries : List (Data × Data))
deriving Inhabited

/-- A form of values from which typed ones can be read.  Each reader fails on a value that stands for
nothing of its type. -/
class Source (ν : Type) where
  text? : ν → Option String
  natural? : ν → Option Nat
  integer? : ν → Option Int
  bool? : ν → Option Bool
  /-- The name of one of several alternatives. -/
  choice? : ν → Option String

namespace Data

/-- A text, or a record whose only entry has nothing in it, names an alternative. -/
def choice? : Data → Option String
  | text value => some value
  | record [(text value, null)] => some value
  | _ => none

instance : Source Data where
  text?
    | text value => some value
    | _ => none
  natural?
    | natural value => some value
    | negative 0 => some 0
    | _ => none
  integer?
    | natural value => some value
    | negative value => some value
    | _ => none
  bool?
    | bool value => some value
    | _ => none
  choice? := choice?

end Data

section

variable {ν : Type} [Source ν]

/-- A number that fits into 32 bits. -/
def read32? (value : ν) : Option UInt32 := do
  let n ← Source.natural? value
  if n < UInt32.size then some (UInt32.ofNat n) else none

/-- A number that fits into 64 bits. -/
def read64? (value : ν) : Option UInt64 := do
  let n ← Source.natural? value
  if n < UInt64.size then some (UInt64.ofNat n) else none

/-- One of several alternatives that have labels. -/
def readLabelled? {α : Type} (all : List α) (label : α → String) (value : ν) : Option α := do
  let name ← Source.choice? value
  all.find? fun x => label x = name

/-- A kind of request. -/
def readKind? (value : ν) : Option RequestKind :=
  readLabelled? RequestKind.all RequestKind.label value

/-- A version. -/
def readVersion? (value : ν) : Option Version := do
  (Version.parse (← Source.text? value)).toOption

/-- A result code. -/
def readCode? (value : ν) : Option AnswerCode := do
  let n ← Source.integer? value
  if -Int.pow 2 31 ≤ n ∧ n < Int.pow 2 31 then some ⟨Int32.ofInt n⟩ else none

/-- A serial. -/
def readSerial? (value : ν) : Option Serial :=
  (read32? value).map Serial.mk

end

end ModemLink
