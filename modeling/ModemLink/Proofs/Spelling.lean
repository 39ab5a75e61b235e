/-
Module: ModemLink.Proofs.Spelling
Purpose: Which texts are versions, and which version each of them is.
Main exports:
  Text.whiteSpace, Text.isBlank_iff, Text.trim_core, placeValue, SpellsPart, Spells,
  parse_eq_ok_iff, parse_text, parse_exact
-/
import Mathlib.Data.List.Basic
import Mathlib.Data.List.Induction
import Mathlib.Data.List.TakeWhile
import Mathlib.Data.Nat.Digits.Defs
import ModemLink.Version

namespace ModemLink

/-!
A version is spelled by two numbers with a point between them, and blanks around the whole.  Each
number has at least one decimal digit, may have leading zeros and a plus sign, and is valued by the
places of its digits.  Digits and signs are neither points nor blanks, so a text can be taken apart
in one way only, and the reader finds that way: it takes off all blanks at the ends and splits at the
first point.
-/

/-! ## Blanks -/

namespace Text

/-- The characters with the Unicode property `White_Space`. -/
def whiteSpace : List Char :=
  ['\u0009', '\u000A', '\u000B', '\u000C', '\u000D', '\u0020', '\u0085', '\u00A0', '\u1680',
    '\u2000', '\u2001', '\u2002', '\u2003', '\u2004', '\u2005', '\u2006', '\u2007', '\u2008',
    '\u2009', '\u200A', '\u2028', '\u2029', '\u202F', '\u205F', '\u3000']

theorem isBlank_iff {c : Char} : isBlank c = true ↔ c ∈ whiteSpace := by
  have codes : c ∈ whiteSpace ↔ c.toNat ∈ whiteSpace.map Char.toNat :=
    (List.mem_map_of_injective fun _ _ => Char.toNat_inj.mp).symm
  rw [codes]
  simp only [isBlank, Bool.or_eq_true, Bool.and_eq_true, decide_eq_true_eq, beq_iff_eq]
  simp [whiteSpace]
  omega

/-- Blanks in front of a text that begins with something else are dropped. -/
theorem dropWhile_blanks {before rest : List Char} (blank : ∀ c ∈ before, isBlank c = true)
    (begins : ∀ c ∈ rest.head?, isBlank c = false) :
    (before ++ rest).dropWhile isBlank = rest := by
  rw [List.dropWhile_append_of_pos blank]
  cases rest with
  | nil => rfl
  | cons c rest => exact List.dropWhile_cons_of_neg (by simp [begins c rfl])

/-- Trimming finds the text between the blanks, if that has something else at both ends. -/
theorem trim_core {before core after : List Char} (ahead : ∀ c ∈ before, isBlank c = true)
    (behind : ∀ c ∈ after, isBlank c = true) (some : core ≠ [])
    (solid : ∀ c ∈ core, isBlank c = false) : trim (before ++ core ++ after) = core := by
  have front : (before ++ (core ++ after)).dropWhile isBlank = core ++ after := by
    apply dropWhile_blanks ahead
    rw [List.head?_append_of_ne_nil _ some]
    exact fun c first => solid c (List.mem_of_mem_head? first)
  have back : (after.reverse ++ core.reverse).dropWhile isBlank = core.reverse := by
    apply dropWhile_blanks fun c member => behind c (List.mem_reverse.mp member)
    exact fun c last => solid c (List.mem_reverse.mp (List.mem_of_mem_head? last))
  rw [trim, List.append_assoc, front, List.reverse_append, back, List.reverse_reverse]

/-- What trimming takes off are blanks. -/
theorem eq_blanks_trim (cs : List Char) :
    ∃ before after, cs = before ++ trim cs ++ after ∧ (∀ c ∈ before, isBlank c = true) ∧
      ∀ c ∈ after, isBlank c = true := by
  let rest := cs.dropWhile isBlank
  refine ⟨cs.takeWhile isBlank, (rest.reverse.takeWhile isBlank).reverse, ?_, ?_, ?_⟩
  · have split : trim cs ++ (rest.reverse.takeWhile isBlank).reverse = rest := by
      rw [trim, ← List.reverse_append, List.takeWhile_append_dropWhile, List.reverse_reverse]
    rw [List.append_assoc, split, List.takeWhile_append_dropWhile]
  · exact fun c member => List.mem_takeWhile_imp member
  · exact fun c member => List.mem_takeWhile_imp (List.mem_reverse.mp member)

end Text

namespace Version

/-! ## One number -/

/-- The number that decimal digits write: each digit counts by its place, ones last. -/
def placeValue (digits : List Char) : Nat :=
  Nat.ofDigits 10 (digits.reverse.map fun c => c.toNat - '0'.toNat)

/-- Some decimal digits that write a number. -/
structure IsNumeral (digits : List Char) (n : Nat) : Prop where
  nonempty : digits ≠ []
  ascii : ∀ c ∈ digits, c.isDigit = true
  value : placeValue digits = n

/-- A number as it is written in a version: decimal digits, with a plus sign or without. -/
inductive SpellsPart : List Char → Nat → Prop where
  | plain {digits : List Char} {n : Nat} (numeral : IsNumeral digits n) : SpellsPart digits n
  | plus {digits : List Char} {n : Nat} (numeral : IsNumeral digits n) :
      SpellsPart ('+' :: digits) n

theorem digitsValue_eq (digits : List Char) : digitsValue digits = placeValue digits := by
  induction digits using List.reverseRecOn with
  | nil => rfl
  | append_singleton digits c ih =>
      rw [digitsValue, List.foldl_concat, ← digitsValue, ih, placeValue, placeValue,
        List.reverse_append, List.reverse_singleton, List.singleton_append, List.map_cons,
        Nat.ofDigits_cons, Nat.add_comm]

theorem isBlank_eq_false_of_isDigit {c : Char} (digit : c.isDigit = true) :
    Text.isBlank c = false := by
  have range : 48 ≤ c.toNat ∧ c.toNat ≤ 57 := by
    simpa [Char.isDigit, UInt32.le_iff_toNat_le] using digit
  simp only [Text.isBlank, Bool.or_eq_false_iff, Bool.and_eq_false_iff, decide_eq_false_iff_not,
    beq_eq_false_iff_ne]
  omega

theorem IsNumeral.not_cons_plus {digits : List Char} {n : Nat} :
    ¬ IsNumeral ('+' :: digits) n := by
  intro numeral
  exact absurd (numeral.ascii '+' List.mem_cons_self) (by decide)

theorem IsNumeral.solid {digits : List Char} {n : Nat} (numeral : IsNumeral digits n) :
    ∀ c ∈ digits, Text.isBlank c = false ∧ c ≠ '.' := by
  intro c member
  have digit := numeral.ascii c member
  refine ⟨isBlank_eq_false_of_isDigit digit, ?_⟩
  rintro rfl
  cases digit

namespace SpellsPart

variable {cs : List Char} {m n : Nat}

/-- Neither blanks nor points are part of a number. -/
theorem solid (spells : SpellsPart cs n) : ∀ c ∈ cs, Text.isBlank c = false ∧ c ≠ '.' := by
  cases spells with
  | plain numeral => exact numeral.solid
  | plus numeral =>
      intro c member
      rcases List.mem_cons.mp member with rfl | later
      · decide
      · exact numeral.solid c later

/-- What is written is one number. -/
theorem unique (one : SpellsPart cs m) (other : SpellsPart cs n) : m = n := by
  cases one with
  | plain numeral =>
      cases other with
      | plain same => exact numeral.value.symm.trans same.value
      | plus => exact absurd numeral IsNumeral.not_cons_plus
  | plus numeral =>
      cases other with
      | plain same => exact absurd same IsNumeral.not_cons_plus
      | plus same => exact numeral.value.symm.trans same.value

end SpellsPart

/-- Digits are read if there are some and their number is small enough. -/
theorem readDigits_iff {digits : List Char} {value : UInt8} :
    (if digits ≠ [] ∧ digits.all Char.isDigit ∧ digitsValue digits ≤ 255 then
        some (UInt8.ofNat (digitsValue digits))
      else none) = some value ↔ IsNumeral digits value.toNat := by
  constructor
  · intro read
    split at read
    · rename_i fits
      cases read
      have small : digitsValue digits < UInt8.size := Nat.lt_succ_of_le fits.2.2
      refine ⟨fits.1, List.all_eq_true.mp fits.2.1, ?_⟩
      rw [UInt8.toNat_ofNat_of_lt' small, digitsValue_eq]
    · cases read
  · rintro ⟨nonempty, ascii, same⟩
    have small := value.toNat_lt
    rw [← digitsValue_eq] at same
    rw [if_pos ⟨nonempty, List.all_eq_true.mpr ascii, by omega⟩, same, UInt8.ofNat_toNat]

theorem parsePart?_of_unsigned {cs : List Char} (unsigned : ∀ digits, cs ≠ '+' :: digits) :
    parsePart? cs =
      if cs ≠ [] ∧ cs.all Char.isDigit ∧ digitsValue cs ≤ 255 then
        some (UInt8.ofNat (digitsValue cs))
      else none := by
  rw [parsePart?]
  exact unsigned

theorem parsePart?_eq_some_iff {cs : List Char} {value : UInt8} :
    parsePart? cs = some value ↔ SpellsPart cs value.toNat := by
  by_cases signed : ∃ digits, cs = '+' :: digits
  · obtain ⟨digits, rfl⟩ := signed
    refine Iff.trans readDigits_iff ⟨.plus, ?_⟩
    intro spells
    cases spells with
    | plain numeral => exact absurd numeral IsNumeral.not_cons_plus
    | plus numeral => exact numeral
  · rw [parsePart?_of_unsigned fun digits same => signed ⟨digits, same⟩]
    refine Iff.trans readDigits_iff ⟨.plain, ?_⟩
    intro spells
    cases spells with
    | plain numeral => exact numeral
    | plus numeral => exact absurd ⟨_, rfl⟩ signed

/-- What a number is shown as spells it. -/
theorem spellsPart_toString (n : Nat) : SpellsPart (toString n).toList n := by
  have shown : (toString n).toList = Nat.toDigits 10 n := by
    rw [Nat.toString_eq_ofList_toDigits, String.toList_ofList]
  rw [shown]
  refine .plain ⟨Nat.toDigits_ne_nil, ?_, ?_⟩
  · exact fun c => Nat.isDigit_of_mem_toDigits (by decide) (by decide)
  · rw [← digitsValue_eq]
    exact Nat.ofDigitChars_toDigits (by decide) (by decide)

/-! ## Two numbers with a point between them -/

/-- What is between the blanks at the ends of a text is two numbers with a point between them. -/
def Spells (s : String) (major minor : Nat) : Prop :=
  ∃ before first second after, s.toList = before ++ (first ++ '.' :: second) ++ after ∧
    (∀ c ∈ before, c ∈ Text.whiteSpace) ∧ (∀ c ∈ after, c ∈ Text.whiteSpace) ∧
    SpellsPart first major ∧ SpellsPart second minor

theorem ofChars?_append {first second : List Char} (pointless : ∀ c ∈ first, c ≠ '.') :
    ofChars? (first ++ '.' :: second) =
      (parsePart? first).bind fun major => (parsePart? second).map fun minor => ⟨major, minor⟩ := by
  have beforePoint : ∀ c ∈ first, decide (c ≠ '.') = true := fun c member =>
    decide_eq_true (pointless c member)
  have ahead : (first ++ '.' :: second).takeWhile (· ≠ '.') = first := by
    rw [List.takeWhile_append_of_pos beforePoint, List.takeWhile_cons_of_neg (by simp),
      List.append_nil]
  have rest : (first ++ '.' :: second).dropWhile (· ≠ '.') = '.' :: second := by
    rw [List.dropWhile_append_of_pos beforePoint, List.dropWhile_cons_of_neg (by simp)]
  rw [ofChars?, rest, ahead]
  show (parsePart? first >>= fun major => parsePart? second >>= fun minor => pure _) = _
  cases parsePart? first <;> cases parsePart? second <;> rfl

/-- Characters without a point are no version. -/
theorem ofChars?_of_pointless {cs : List Char} (pointless : ∀ c ∈ cs, c ≠ '.') :
    ofChars? cs = none := by
  have none : cs.dropWhile (· ≠ '.') = [] :=
    List.dropWhile_eq_nil_iff.mpr fun c member => decide_eq_true (pointless c member)
  rw [ofChars?, none]

theorem ofChars?_eq_some_iff {cs : List Char} {version : Version} :
    ofChars? cs = some version ↔
      ∃ first second, cs = first ++ '.' :: second ∧
        SpellsPart first version.major.toNat ∧ SpellsPart second version.minor.toNat := by
  constructor
  · intro read
    by_cases pointed : '.' ∈ cs
    · obtain ⟨first, second, rfl, pointless⟩ := List.eq_append_cons_of_mem pointed
      rw [ofChars?_append fun c member same => pointless (same ▸ member)] at read
      obtain ⟨major, readMajor, read⟩ := Option.bind_eq_some_iff.mp read
      obtain ⟨minor, readMinor, rfl⟩ := Option.map_eq_some_iff.mp read
      exact ⟨first, second, rfl, parsePart?_eq_some_iff.mp readMajor,
        parsePart?_eq_some_iff.mp readMinor⟩
    · rw [ofChars?_of_pointless fun c member same => pointed (same ▸ member)] at read
      cases read
  · rintro ⟨first, second, rfl, major, minor⟩
    rw [ofChars?_append fun c member => (major.solid c member).2,
      parsePart?_eq_some_iff.mpr major, parsePart?_eq_some_iff.mpr minor]
    rfl

/-- Trimming leaves the two numbers and the point. -/
theorem trim_spelled {before first second after : List Char} {major minor : Nat}
    (ahead : ∀ c ∈ before, c ∈ Text.whiteSpace) (behind : ∀ c ∈ after, c ∈ Text.whiteSpace)
    (one : SpellsPart first major) (other : SpellsPart second minor) :
    Text.trim (before ++ (first ++ '.' :: second) ++ after) = first ++ '.' :: second := by
  apply Text.trim_core fun c member => Text.isBlank_iff.mpr (ahead c member)
  · exact fun c member => Text.isBlank_iff.mpr (behind c member)
  · simp
  · intro c member
    rcases List.mem_append.mp member with left | right
    · exact (one.solid c left).1
    · rcases List.mem_cons.mp right with rfl | later
      · decide
      · exact (other.solid c later).1

theorem parse_eq_ok_iff_ofChars? {s : String} {version : Version} :
    parse s = .ok version ↔ ofChars? (Text.trim s.toList) = some version := by
  unfold parse
  cases ofChars? (Text.trim s.toList) <;> simp

/-- A text is read as a version exactly where it spells its two parts. -/
theorem parse_eq_ok_iff {s : String} {version : Version} :
    parse s = .ok version ↔ Spells s version.major.toNat version.minor.toNat := by
  rw [parse_eq_ok_iff_ofChars?, ofChars?_eq_some_iff]
  constructor
  · rintro ⟨first, second, trimmed, major, minor⟩
    obtain ⟨before, after, whole, ahead, behind⟩ := Text.eq_blanks_trim s.toList
    rw [trimmed] at whole
    exact ⟨before, first, second, after, whole, fun c member => Text.isBlank_iff.mp (ahead c member),
      fun c member => Text.isBlank_iff.mp (behind c member), major, minor⟩
  · rintro ⟨before, first, second, after, whole, ahead, behind, major, minor⟩
    exact ⟨first, second, whole ▸ trim_spelled ahead behind major minor, major, minor⟩

/-- A text spells two numbers at most. -/
theorem Spells.unique {s : String} {major minor otherMajor otherMinor : Nat}
    (one : Spells s major minor) (other : Spells s otherMajor otherMinor) :
    major = otherMajor ∧ minor = otherMinor := by
  obtain ⟨before, first, second, after, whole, ahead, behind, spellsMajor, spellsMinor⟩ := one
  obtain ⟨_, otherFirst, otherSecond, _, otherWhole, otherAhead, otherBehind, otherSpellsMajor,
    otherSpellsMinor⟩ := other
  have trimmed := trim_spelled ahead behind spellsMajor spellsMinor
  have otherTrimmed := trim_spelled otherAhead otherBehind otherSpellsMajor otherSpellsMinor
  rw [← whole] at trimmed
  rw [← otherWhole, trimmed] at otherTrimmed
  obtain ⟨rfl, -, rfl⟩ := (List.append_cons_inj_of_notMem
    (fun member => (spellsMajor.solid _ member).2 rfl)
    (fun member => (spellsMinor.solid _ member).2 rfl)).mp otherTrimmed
  exact ⟨spellsMajor.unique otherSpellsMajor, spellsMinor.unique otherSpellsMinor⟩

theorem spells_text (version : Version) :
    Spells version.text version.major.toNat version.minor.toNat := by
  have shown : version.text.toList = [] ++ ((toString version.major.toNat).toList ++
      '.' :: (toString version.minor.toNat).toList) ++ [] := by
    rw [List.nil_append, List.append_nil, text, String.toList_append, String.toList_append,
      List.append_assoc]
    rfl
  exact ⟨[], _, _, [], shown, by simp, by simp, spellsPart_toString _, spellsPart_toString _⟩

/-! ## Reading and showing -/

/-- What is shown is read back. -/
theorem parse_text (version : Version) : parse version.text = .ok version :=
  parse_eq_ok_iff.mpr (spells_text version)

theorem parse_eq_error_iff {s : String} {malformed : Malformed} :
    parse s = .error malformed ↔ malformed = ⟨s⟩ ∧ ∀ version, parse s ≠ .ok version := by
  unfold parse
  cases ofChars? (Text.trim s.toList) with
  | none => simp [eq_comm]
  | some version => simp

/-- Small numbers are the parts of a version. -/
theorem exists_version {major minor : Nat} (smallMajor : major ≤ 255) (smallMinor : minor ≤ 255) :
    ∃ version : Version, version.major.toNat = major ∧ version.minor.toNat = minor :=
  ⟨⟨UInt8.ofNat major, UInt8.ofNat minor⟩,
    UInt8.toNat_ofNat_of_lt' (Nat.lt_succ_of_le smallMajor),
    UInt8.toNat_ofNat_of_lt' (Nat.lt_succ_of_le smallMinor)⟩

theorem eq_iff_parts {one other : Version} :
    one = other ↔
      one.major.toNat = other.major.toNat ∧ one.minor.toNat = other.minor.toNat := by
  rw [Version.mk.injEq, UInt8.toNat_inj, UInt8.toNat_inj]

/-- A text is a version exactly if it spells two numbers of at most 255, and then it is the version
with these parts; any other text is refused as it was given.  So what a version is shown as is read as
that version, what a text is read as is shown in a way that does not change any more, and two
texts are the same version exactly if they spell the same numbers. -/
theorem parse_exact (s : String) :
    ((∃ version, parse s = .ok version) ↔
      ∃ major minor, Spells s major minor ∧ major ≤ 255 ∧ minor ≤ 255) ∧
    (∀ version major minor, parse s = .ok version → Spells s major minor →
      version.major.toNat = major ∧ version.minor.toNat = minor) ∧
    (∀ malformed, parse s = .error malformed ↔
      malformed = ⟨s⟩ ∧ ¬ ∃ major minor, Spells s major minor ∧ major ≤ 255 ∧ minor ≤ 255) ∧
    (∀ version : Version, parse version.text = .ok version) ∧
    (∀ shown, (parse s).map text = .ok shown → (parse shown).map text = .ok shown) ∧
    ∀ other version otherVersion major minor otherMajor otherMinor,
      parse s = .ok version → parse other = .ok otherVersion →
      Spells s major minor → Spells other otherMajor otherMinor →
      (version = otherVersion ↔ major = otherMajor ∧ minor = otherMinor) := by
  have accepted : (∃ version, parse s = .ok version) ↔
      ∃ major minor, Spells s major minor ∧ major ≤ 255 ∧ minor ≤ 255 := by
    constructor
    · rintro ⟨version, read⟩
      exact ⟨_, _, parse_eq_ok_iff.mp read, Nat.le_of_lt_succ version.major.toNat_lt,
        Nat.le_of_lt_succ version.minor.toNat_lt⟩
    · rintro ⟨major, minor, spells, smallMajor, smallMinor⟩
      obtain ⟨version, rfl, rfl⟩ := exists_version smallMajor smallMinor
      exact ⟨version, parse_eq_ok_iff.mpr spells⟩
  have parts : ∀ {text version major minor}, parse text = .ok version → Spells text major minor →
      version.major.toNat = major ∧ version.minor.toNat = minor := fun read spells =>
    (parse_eq_ok_iff.mp read).unique spells
  refine ⟨accepted, fun _ _ _ => parts, ?_, parse_text, ?_, ?_⟩
  · intro malformed
    rw [parse_eq_error_iff, ← accepted, not_exists]
  · intro shown read
    cases readAs : parse s with
    | error malformed =>
        rw [readAs] at read
        cases read
    | ok version =>
        rw [readAs] at read
        cases read
        rw [parse_text]
        rfl
  · intro other version otherVersion major minor otherMajor otherMinor read otherRead spells
      otherSpells
    obtain ⟨rfl, rfl⟩ := parts read spells
    obtain ⟨rfl, rfl⟩ := parts otherRead otherSpells
    exact eq_iff_parts

/-- Blanks of any kind stand around the whole, leading zeros and a plus sign before each number. -/
example : (parse "\u00A0+02.010\n").map text = .ok "2.10" := by decide +kernel

/-- Blanks inside do not. -/
example : parse "1. 4" = .error ⟨"1. 4"⟩ := by decide +kernel

end Version

end ModemLink
