/-
Module: ModemLink.Text.Blank
Purpose: White space as the Unicode standard defines it, and trimming it off both ends.
Main exports: isBlank, trim, trimString
-/

namespace ModemLink.Text

/-!
The property `White_Space` has twenty-five members, among them the no-break space and the line and
paragraph separators.  Core's `Char.isWhitespace` knows only the ASCII ones.
-/

/-- Unicode `White_Space`. -/
def isBlank (c : Char) : Bool :=
  let n := c.toNat
  (9 ≤ n && n ≤ 13) || n == 0x20 || n == 0x85 || n == 0xA0 || n == 0x1680
    || (0x2000 ≤ n && n ≤ 0x200A) || n == 0x2028 || n == 0x2029 || n == 0x202F || n == 0x205F
    || n == 0x3000

/-- The text without the blanks at its two ends. -/
def trim (cs : List Char) : List Char :=
  ((cs.dropWhile isBlank).reverse.dropWhile isBlank).reverse

/-- `trim` on strings. -/
def trimString (s : String) : String :=
  String.ofList (trim s.toList)

end ModemLink.Text
