/-
Module: ModemLink.Version
Purpose: Versions of the modem interface: their order, their text and how it is read.
Main exports: Version, Version.rank, Version.text, Version.parse
-/
import ModemLink.Text.Blank
import ModemLink.Text.Quoted

namespace ModemLink

/-- A version of the modem interface. -/
structure Version where
  major : UInt8
  minor : UInt8
deriving DecidableEq, Repr, Inhabited

namespace Version

/-- Position of a version among all versions: the major part decides, then the minor one. -/
def rank (v : Version) : Nat :=
  v.major.toNat * 256 + v.minor.toNat

instance : LE Version := ⟨fun a b => a.rank ≤ b.rank⟩
instance : LT Version := ⟨fun a b => a.rank < b.rank⟩

instance (a b : Version) : Decidable (a ≤ b) := inferInstanceAs (Decidable (a.rank ≤ b.rank))
instance (a b : Version) : Decidable (a < b) := inferInstanceAs (Decidable (a.rank < b.rank))

instance : Min Version := ⟨fun a b => if a ≤ b then a else b⟩
instance : Max Version := ⟨fun a b => if a ≤ b then b else a⟩

theorem le_def {a b : Version} : a ≤ b ↔ a.rank ≤ b.rank := Iff.rfl

theorem lt_def {a b : Version} : a < b ↔ a.rank < b.rank := Iff.rfl

/-- Two versions of one rank are one version. -/
theorem eq_of_rank_eq {a b : Version} (h : a.rank = b.rank) : a = b := by
  obtain ⟨aMajor, aMinor⟩ := a
  obtain ⟨bMajor, bMinor⟩ := b
  have hb := bMinor.toNat_lt
  have ha := aMinor.toNat_lt
  simp only [rank] at h
  have major : aMajor = bMajor := UInt8.toNat_inj.mp (by omega)
  have minor : aMinor = bMinor := UInt8.toNat_inj.mp (by omega)
  rw [major, minor]

theorem rank_min (a b : Version) : (min a b).rank = min a.rank b.rank := by
  show (if a ≤ b then a else b).rank = _
  by_cases h : a ≤ b
  · rw [if_pos h]; exact (Nat.min_eq_left h).symm
  · rw [if_neg h]; exact (Nat.min_eq_right (Nat.le_of_lt (Nat.lt_of_not_le h))).symm

/-! ## Text -/

/-- The text of a version: both parts in decimal, a point between them. -/
def text (v : Version) : String :=
  s!"{v.major.toNat}.{v.minor.toNat}"

instance : ToString Version := ⟨text⟩

/-- Value of a string of decimal digits, most significant first. -/
def digitsValue (cs : List Char) : Nat :=
  cs.foldl (fun n c => 10 * n + (c.toNat - '0'.toNat)) 0

/-- One part of a version: an optional plus sign, then at least one ASCII digit, of value at most
255.  Leading zeros are allowed. -/
def parsePart? (cs : List Char) : Option UInt8 :=
  let digits := match cs with
    | '+' :: rest => rest
    | _ => cs
  if digits ≠ [] ∧ digits.all Char.isDigit ∧ digitsValue digits ≤ 255 then
    some (UInt8.ofNat (digitsValue digits))
  else
    none

/-- A text that is no version.  It is kept as it was given, blanks included. -/
structure Malformed where
  text : String
deriving DecidableEq, Repr

/-- The complaint about such a text. -/
def Malformed.message (malformed : Malformed) : String :=
  s!"invalid HAL version: {Text.quote malformed.text}"

/-- Read a version from characters: the part before the first point and the part after it. -/
def ofChars? (cs : List Char) : Option Version :=
  match cs.dropWhile (· ≠ '.') with
  | [] => none
  | _ :: after => do
    let major ← parsePart? (cs.takeWhile (· ≠ '.'))
    let minor ← parsePart? after
    pure ⟨major, minor⟩

/-- Read a version, ignoring blanks around it. -/
def parse (s : String) : Except Malformed Version :=
  match ofChars? (Text.trim s.toList) with
  | some version => .ok version
  | none => .error ⟨s⟩

end Version

end ModemLink
