/-
Module: ModemLink.Yaml.Scalar
Purpose: Reading scalars: plain, quoted and block ones.
Main exports: Style, readPlain, readQuoted, readBlock
-/
import ModemLink.Yaml.Cursor

namespace ModemLink.Yaml

/-!
Each reader starts at the scalar and returns its text with the place after it, or `none` where the
text breaks a rule.  A loop goes on only while it moves ahead, which bounds it.
-/

/-- How a scalar is written. -/
inductive Style where
  | plain
  | singleQuoted
  | doubleQuoted
  | literal
  | folded
deriving DecidableEq, Repr

/-! ## White space inside a scalar -/

/-- Blanks and line breaks between two parts of a flow scalar. -/
structure Gap where
  /-- Whether a line was ended. -/
  broken : Bool
  /-- The blanks before the first line break. -/
  blanks : List Char
  /-- The first line break, unless it was escaped. -/
  first : Option Char
  /-- The line breaks after the first. -/
  more : List Char

namespace Gap

/-- A gap with nothing in it yet, before or after an escaped line break. -/
def start (escapedBreak : Bool) : Gap :=
  ⟨escapedBreak, [], none, []⟩

/-- What a gap stands for: blanks stay, a single line break becomes a space, and of several line
breaks all but the first stay. -/
def text (gap : Gap) : List Char :=
  if gap.broken then
    match gap.first with
    | none => gap.more
    | some '\n' => if gap.more.isEmpty then [' '] else gap.more
    | some other => other :: gap.more
  else
    gap.blanks

/-- Read a gap.  Where `indent` is given, a tab left of that column is an error. -/
def read (gap : Gap) (c : Cursor) (indent : Option Int) : Option (Gap × Cursor) :=
  match c.peek? 0 with
  | none => some (gap, c)
  | some ch =>
    let step : Option (Gap × Cursor) :=
      if isBlank ch then
        if gap.broken then
          if ch == '\t' && indent.any ((c.column : Int) < ·) then none
          else some (gap, c.skip 1)
        else
          some ({ gap with blanks := gap.blanks ++ [ch] }, c.skip 1)
      else
        match c.lineBreak? with
        | none => some (gap, c)
        | some (newLine, after) =>
          if gap.broken then some ({ gap with more := gap.more ++ [newLine] }, after)
          else some ({ gap with broken := true, first := some newLine }, after)
    match step with
    | none => none
    | some (gap, after) =>
      if _h : after.remaining < c.remaining then gap.read after indent else some (gap, c)
termination_by c.remaining

end Gap

/-! ## Quoted scalars -/

/-- The character that a one-letter escape stands for. -/
def escapes : List (Char × Char) :=
  [('0', '\x00'), ('a', '\x07'), ('b', '\x08'), ('t', '\t'), ('\t', '\t'), ('n', '\n'),
    ('v', '\x0b'), ('f', '\x0c'), ('r', '\r'), ('e', '\x1b'), (' ', ' '), ('"', '"'), ('/', '/'),
    ('\\', '\\'), ('N', '\x85'), ('_', '\xa0'), ('L', '\u2028'), ('P', '\u2029')]

/-- How many digits follow the letter of a numeric escape. -/
def escapeWidth : Char → Option Nat
  | 'x' => some 2
  | 'u' => some 4
  | 'U' => some 8
  | _ => none

/-- Value of a hexadecimal digit. -/
def hexValue? (c : Char) : Option Nat :=
  if c.isDigit then some (c.toNat - '0'.toNat)
  else if 'a' ≤ c ∧ c ≤ 'f' then some (c.toNat - 'a'.toNat + 10)
  else if 'A' ≤ c ∧ c ≤ 'F' then some (c.toNat - 'A'.toNat + 10)
  else none

/-- The character with a number; the surrogates have none. -/
def charOf? (n : Nat) : Option Char :=
  if h : n.isValidChar then some (Char.ofNatAux n h) else none

/-- Read the escape that begins at a backslash. -/
def readEscape (c : Cursor) : Option (Char × Cursor) := do
  let letter ← c.peek? 1
  match escapes.lookup letter with
  | some ch => some (ch, c.skip 2)
  | none =>
    let width ← escapeWidth letter
    let digits ← (List.range width).mapM fun n => c.peek? (2 + n) >>= hexValue?
    let ch ← charOf? (digits.foldl (fun n digit => 16 * n + digit) 0)
    some (ch, c.skip (2 + width))

/-- How a run of characters in a quoted scalar ended: at a quote, blank or break, or with an escaped
line break. -/
structure Run where
  chars : List Char
  escapedBreak : Bool
  after : Cursor

/-- Read characters of a quoted scalar up to a blank, a line break or the closing quote. -/
def readQuotedRun (single : Bool) (c : Cursor) (read : List Char) : Option Run :=
  let done : Option Run := some ⟨read.reverse, false, c⟩
  match c.peek? 0 with
  | none => done
  | some ch =>
    if isBlank ch || isBreak ch then done
    else
      let quote := if single then '\'' else '"'
      let next : Option (Char × Cursor) :=
        if ch == quote then
          if single && c.seesAt 1 (· == '\'') then some ('\'', c.skip 2) else some (ch, c)
        else if !single && ch == '\\' then
          if c.seesAt 1 isBreak then some (ch, c) else readEscape c
        else some (ch, c.skip 1)
      match next with
      | none => none
      | some (ch, after) =>
        if _h : after.remaining < c.remaining then readQuotedRun single after (ch :: read)
        else if ch == '\\' then
          (c.skip 1).lineBreak?.map fun (_, after) => ⟨read.reverse, true, after⟩
        else done
termination_by c.remaining

/-- Read the parts of a quoted scalar and the gaps between them, to the closing quote. -/
def readQuotedParts (single : Bool) (c : Cursor) (read : List Char) : Option (List Char × Cursor) :=
  if c.atEnd || c.seesDocumentMarker then none
  else
    match readQuotedRun single c [] with
    | none => none
    | some run =>
      if run.after.sees (· == if single then '\'' else '"') then
        some (read ++ run.chars, run.after.skip 1)
      else
        match (Gap.start run.escapedBreak).read run.after none with
        | none => none
        | some (gap, after) =>
          if _h : after.remaining < c.remaining then
            readQuotedParts single after (read ++ run.chars ++ gap.text)
          else none
termination_by c.remaining

/-- Read the quoted scalar that begins at a quote. -/
def readQuoted (single : Bool) (c : Cursor) : Option (List Char × Cursor) :=
  readQuotedParts single (c.skip 1) []

/-! ## Plain scalars -/

/-- Whether a plain scalar ends at this character. -/
def plainEnds (flow : Bool) (c : Cursor) : Bool :=
  (c.sees (· == ':') && c.blankOrEnd 1) || (flow && c.sees (",[]\x7b\x7d".contains ·))

/-- A colon in a flow collection may not touch the character after it if that ends the entry. -/
def plainMalformed (flow : Bool) (c : Cursor) : Bool :=
  flow && c.sees (· == ':') && c.seesAt 1 (",?[]\x7b\x7d".contains ·)

/-- Read characters of a plain scalar up to a blank, a line break or its end. -/
def readPlainRun (flow : Bool) (c : Cursor) (read : List Char) : Option (List Char × Cursor) :=
  match c.peek? 0 with
  | none => some (read.reverse, c)
  | some ch =>
    if isBlank ch || isBreak ch then some (read.reverse, c)
    else if plainMalformed flow c then none
    else if plainEnds flow c then some (read.reverse, c)
    else
      let after := c.skip 1
      if _h : after.remaining < c.remaining then readPlainRun flow after (ch :: read) else none
termination_by c.remaining

/-- Text of a plain scalar, the place after it, and whether a line was ended after its last
character. -/
structure Plain where
  text : List Char
  after : Cursor
  broken : Bool

/-- Read a plain scalar, `gap` lying between what was read and this place. -/
def readPlainParts (flow : Bool) (indent : Int) (c : Cursor) (read : List Char) (gap : Gap) :
    Option Plain :=
  let done : Option Plain := some ⟨read, c, gap.broken⟩
  if c.seesDocumentMarker || c.sees (· == '#') then done
  else
    match readPlainRun flow c [] with
    | none => none
    | some ([], _) => done
    | some (chars, after) =>
      let read := read ++ gap.text ++ chars
      match (Gap.start false).read after (some indent) with
      | none => none
      | some (gap, next) =>
        if !flow && (next.column : Int) < indent && gap.broken then some ⟨read, next, true⟩
        else if _h : next.remaining < c.remaining then readPlainParts flow indent next read gap
        else none
termination_by c.remaining

/-- Read a plain scalar whose later lines must reach the column `indent`. -/
def readPlain (flow : Bool) (indent : Int) (c : Cursor) : Option Plain :=
  readPlainParts flow indent c [] (Gap.start false)

/-! ## Block scalars -/

/-- What becomes of the line breaks at the end of a block scalar. -/
inductive Chomping where
  | strip
  | clip
  | keep
deriving DecidableEq, Repr

/-- The header of a block scalar: chomping and indentation, in either order. -/
def readBlockHeader (c : Cursor) : Option (Chomping × Option Nat × Cursor) :=
  let chomping (c : Cursor) : Option (Chomping × Cursor) :=
    match c.peek? 0 with
    | some '+' => some (.keep, c.skip 1)
    | some '-' => some (.strip, c.skip 1)
    | _ => none
  let indentation (c : Cursor) : Option (Option Nat × Cursor) :=
    match c.peek? 0 with
    | some ch =>
      if ch == '0' then none
      else if ch.isDigit then some (some (ch.toNat - '0'.toNat), c.skip 1)
      else some (none, c)
    | none => some (none, c)
  match chomping c with
  | some (kind, c) => (indentation c).map fun (width, c) => (kind, width, c)
  | none => do
    let (width, c) ← indentation c
    match width, chomping c with
    | some _, some (kind, c) => some (kind, width, c)
    | _, _ => some (.clip, width, c)

/-- Skip indentation and empty lines in a block scalar: the line breaks met, and the widest
indentation seen.  Without a known indentation all spaces are skipped. -/
def readBlockBreaks (indent : Option Nat) (c : Cursor) (breaks : List Char) (widest : Nat) :
    Option (List Char × Nat × Cursor) :=
  let spaces := c.skipWhile (· == ' ')
  let here := match indent with
    | some width => if spaces.column ≤ width then spaces else c.skip (width - c.column)
    | none => spaces
  let widest := max widest here.column
  if here.sees (· == '\t') && indent.all (here.column < ·) then none
  else
    match here.lineBreak? with
    | none => some (breaks, widest, here)
    | some (newLine, after) =>
      if _h : after.remaining < c.remaining then
        readBlockBreaks indent after (breaks ++ [newLine]) widest
      else none
termination_by c.remaining

/-- What was read of a block scalar so far. -/
structure Block where
  text : List Char
  /-- The break at the end of the last line. -/
  lineEnd : List Char
  /-- The breaks of the empty lines after it. -/
  trailing : List Char
  /-- Whether the last line began with a blank. -/
  blankStart : Bool

/-- Read the lines of a block scalar. -/
def readBlockLines (fold : Bool) (indent : Nat) (c : Cursor) (block : Block) :
    Option (Block × Cursor) :=
  if c.column ≠ indent || c.atEnd then some (block, c)
  else
    let blank := c.sees isBlank
    let joined :=
      if fold && block.lineEnd == ['\n'] && !block.blankStart && !blank then
        if block.trailing.isEmpty then [' '] else []
      else block.lineEnd
    let (line, lineEnd) := c.span fun _ => true
    let (newLine, after) := match lineEnd.lineBreak? with
      | some (newLine, after) => ([newLine], after)
      | none => ([], lineEnd)
    match readBlockBreaks (some indent) after [] 0 with
    | none => none
    | some (trailing, _, next) =>
      let text := block.text ++ joined ++ block.trailing ++ line
      if _h : next.remaining < c.remaining then
        readBlockLines fold indent next ⟨text, newLine, trailing, blank⟩
      else none
termination_by c.remaining

/-- Read the block scalar that begins at its indicator, in a block indented by `parent`. -/
def readBlock (fold : Bool) (parent : Int) (c : Cursor) : Option (List Char × Cursor) := do
  let (chomping, width, c) ← readBlockHeader (c.skip 1)
  let c := c.skipWhile isBlank
  let c := if c.sees (· == '#') then c.skipWhile fun _ => true else c
  if !c.lineEnds then none
  else
    let c := (c.lineBreak?.map Prod.snd).getD c
    let given := width.map fun n => (max parent 0).toNat + n
    let (breaks, widest, c) ← readBlockBreaks given c [] 0
    let indent := given.getD (max widest (max (parent + 1) 1).toNat)
    let (block, c) ← readBlockLines fold indent c ⟨[], [], breaks, false⟩
    some (block.text ++ (if chomping = .strip then [] else block.lineEnd)
      ++ (if chomping = .keep then block.trailing else []), c)

end ModemLink.Yaml
