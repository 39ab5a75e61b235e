/-
Module: ModemLink.Yaml.Cursor
Purpose: A place in a text, with its line and column.
Main exports: Cursor, peek?, sees, blankOrEnd, skip, lineBreak?, span
-/

namespace ModemLink.Yaml

/-- A space or a tab. -/
def isBlank (c : Char) : Bool :=
  c == ' ' || c == '\t'

/-- A character that ends a line. -/
def isBreak (c : Char) : Bool :=
  c == '\n' || c == '\r' || c == '\x85' || c == '\u2028' || c == '\u2029'

/-- A character of a name: letters, digits, dash and underscore of ASCII. -/
def isWordChar (c : Char) : Bool :=
  c.isAlphanum || c == '-' || c == '_'

/-- A place in a text.  Lines and columns count from zero, in characters. -/
structure Cursor where
  text : Array Char
  index : Nat
  line : Nat
  column : Nat

namespace Cursor

/-- The start of a text. -/
def start (text : List Char) : Cursor :=
  ⟨text.toArray, 0, 0, 0⟩

/-- The character that stands `n` places ahead. -/
def peek? (c : Cursor) (n : Nat) : Option Char :=
  c.text[c.index + n]?

/-- How many characters are left. -/
def remaining (c : Cursor) : Nat :=
  c.text.size - c.index

/-- Whether nothing is left. -/
def atEnd (c : Cursor) : Bool :=
  c.text.size ≤ c.index

/-- Whether a character with a property stands `n` places ahead. -/
def seesAt (c : Cursor) (n : Nat) (p : Char → Bool) : Bool :=
  (c.peek? n).any p

/-- Whether the next character has a property. -/
def sees (c : Cursor) (p : Char → Bool) : Bool :=
  c.seesAt 0 p

/-- Whether a blank, a line break or the end of the text stands `n` places ahead. -/
def blankOrEnd (c : Cursor) (n : Nat) : Bool :=
  (c.peek? n).all fun ch => isBlank ch || isBreak ch

/-- Whether the line ends here. -/
def lineEnds (c : Cursor) : Bool :=
  (c.peek? 0).all isBreak

/-- Go `n` characters ahead on the same line. -/
def skip (c : Cursor) (n : Nat) : Cursor :=
  { c with index := c.index + n, column := c.column + n }

/-- Go to the next line.  The break is returned as it counts in a scalar: the breaks of ASCII and the
next-line character are line feeds, and a carriage return takes a line feed with it. -/
def lineBreak? (c : Cursor) : Option (Char × Cursor) :=
  let newLine (n : Nat) : Cursor :=
    { c with index := c.index + n, line := c.line + 1, column := 0 }
  match c.peek? 0 with
  | some '\r' => some ('\n', newLine (if c.seesAt 1 (· == '\n') then 2 else 1))
  | some ch =>
    if ch == '\n' || ch == '\x85' then some ('\n', newLine 1)
    else if isBreak ch then some (ch, newLine 1)
    else none
  | none => none

/-- Go past the characters of this line that have a property. -/
def skipWhile (c : Cursor) (p : Char → Bool) : Cursor :=
  if _h : c.index < c.text.size then
    if p c.text[c.index] && !isBreak c.text[c.index] then (c.skip 1).skipWhile p else c
  else c
termination_by c.text.size - c.index
decreasing_by simp only [skip]; omega

/-- The characters of this line that have a property, and the place after them. -/
def span (c : Cursor) (p : Char → Bool) : List Char × Cursor :=
  let after := c.skipWhile p
  ((c.text.extract c.index after.index).toList, after)

/-- Whether a document marker, three dashes or three points, stands at the start of this line. -/
def seesDocumentMarker (c : Cursor) : Bool :=
  c.column == 0 && c.blankOrEnd 3
    && ['-', '.'].any fun mark => (List.range 3).all fun n => c.seesAt n (· == mark)

end Cursor

end ModemLink.Yaml
