/-
Module: ModemLink.Yaml.Token
Purpose: The tokens of a text, block structure made explicit.
Main exports: Token, Token.ofText?
-/
import ModemLink.Yaml.Scalar

namespace ModemLink.Yaml

/-!
Indentation is turned into tokens that open and close blocks.  A key is only known as a key once the
colon after it is found, so its token is put in where the key began; until then that place is
remembered as a candidate.
-/

/-- A token. -/
inductive Token where
  | versionDirective (major minor : Nat)
  | tagDirective (handle stem : String)
  | documentStart
  | documentEnd
  | blockSequenceStart
  | blockMappingStart
  | blockEnd
  | flowSequenceStart
  | flowSequenceEnd
  | flowMappingStart
  | flowMappingEnd
  | blockEntry
  | flowEntry
  | key
  | value
  | alias (name : String)
  | anchor (name : String)
  | tag (handle suffix : String)
  | scalar (style : Style) (text : String)
deriving DecidableEq, Repr

/-- A place where a key may have begun. -/
structure Candidate where
  /-- How many tokens stood before it. -/
  position : Nat
  /-- Whether what stands there has to be a key. -/
  required : Bool
  index : Nat
  line : Nat
  column : Nat

/-- A text of which some tokens have been read. -/
structure Lexer where
  cursor : Cursor
  /-- The tokens read, newest first. -/
  tokens : List Token
  count : Nat
  /-- Column of the innermost block; -1 outside all blocks. -/
  indent : Int
  /-- Columns of the blocks around it. -/
  outer : List Int
  /-- How many flow collections are open. -/
  flow : Nat
  /-- The candidate of the innermost flow collection, and of those around it. -/
  candidate : Option Candidate
  outerCandidates : List (Option Candidate)
  /-- Whether a key may begin here. -/
  keyAllowed : Bool

namespace Lexer

def start (text : List Char) : Lexer :=
  ⟨.start text, [], 0, -1, [], 0, none, [], true⟩

/-- Add a token and go to the place after it. -/
def push (lexer : Lexer) (token : Token) (after : Cursor) : Lexer :=
  { lexer with tokens := token :: lexer.tokens, count := lexer.count + 1, cursor := after }

/-- Put a token in after the first `position` ones. -/
def insert (lexer : Lexer) (token : Token) (position : Nat) : Lexer :=
  let newer := lexer.count - position
  { lexer with
    tokens := lexer.tokens.take newer ++ token :: lexer.tokens.drop newer
    count := lexer.count + 1 }

/-! ## Blocks -/

/-- Open a block at a column, unless one is open there or the place is inside a flow collection. -/
def openBlock (lexer : Lexer) (column : Nat) (token : Token) (position : Nat) : Lexer :=
  if lexer.flow = 0 ∧ lexer.indent < column then
    { lexer with indent := column, outer := lexer.indent :: lexer.outer }.insert token position
  else lexer

/-- Close the blocks in `outer` that lie right of a column. -/
def closeFrom (column : Int) (indent : Int) (outer : List Int) (lexer : Lexer) : Lexer :=
  if indent ≤ column then { lexer with indent := indent, outer := outer }
  else
    let closed := lexer.push .blockEnd lexer.cursor
    match outer with
    | [] => { closed with indent := -1, outer := [] }
    | next :: rest => closeFrom column next rest closed

/-- Close the blocks that lie right of a column. -/
def closeBlocks (lexer : Lexer) (column : Int) : Lexer :=
  if lexer.flow = 0 then closeFrom column lexer.indent lexer.outer lexer else lexer

/-! ## Candidates for keys -/

/-- Give up the present candidate.  A required key has to be one. -/
def dropCandidate (lexer : Lexer) : Option Lexer :=
  if lexer.candidate.any (·.required) then none else some { lexer with candidate := none }

/-- Remember this place as a candidate, where a key may begin. -/
def saveCandidate (lexer : Lexer) : Option Lexer :=
  if lexer.keyAllowed then do
    let lexer ← lexer.dropCandidate
    let c := lexer.cursor
    some { lexer with
      candidate := some
        ⟨lexer.count, lexer.flow = 0 ∧ lexer.indent = c.column, c.index, c.line, c.column⟩ }
  else some lexer

/-- The present candidate, if the key can still be the one that began there: a key stays on one line
and within 1024 characters. -/
def liveCandidate (lexer : Lexer) : Option (Option Candidate) :=
  match lexer.candidate with
  | none => some none
  | some candidate =>
    if candidate.line < lexer.cursor.line ∨ candidate.index + 1024 < lexer.cursor.index then
      if candidate.required then none else some none
    else some (some candidate)

/-! ## Single tokens -/

/-- Skip blanks, comments and line breaks before a token. -/
def skipToToken (lexer : Lexer) : Lexer :=
  let c := lexer.cursor
  let c := if c.column == 0 && c.sees (· == '\ufeff') then c.skip 1 else c
  let tabs := lexer.flow ≠ 0 ∨ ¬lexer.keyAllowed
  let c := c.skipWhile fun ch => ch == ' ' || (decide tabs && ch == '\t')
  let c := if c.sees (· == '#') then c.skipWhile fun _ => true else c
  match c.lineBreak? with
  | none => { lexer with cursor := c }
  | some (_, after) =>
    let next := { lexer with
      cursor := after
      keyAllowed := lexer.keyAllowed || lexer.flow = 0 }
    if _h : next.cursor.remaining < lexer.cursor.remaining then next.skipToToken else next
termination_by lexer.cursor.remaining

/-- A token that opens a flow collection. -/
def openFlow (lexer : Lexer) (token : Token) : Option Lexer := do
  let lexer ← lexer.saveCandidate
  some { lexer.push token (lexer.cursor.skip 1) with
    flow := lexer.flow + 1
    candidate := none
    outerCandidates := lexer.candidate :: lexer.outerCandidates
    keyAllowed := true }

/-- A token that closes a flow collection. -/
def closeFlow (lexer : Lexer) (token : Token) : Option Lexer := do
  let lexer ← lexer.dropCandidate
  let closed := { lexer.push token (lexer.cursor.skip 1) with keyAllowed := false }
  match lexer.outerCandidates with
  | [] => some closed
  | candidate :: rest =>
    some { closed with
      flow := lexer.flow - 1
      candidate := candidate
      outerCandidates := rest }

/-- A token of one character after which a key may begin or not; it is itself no part of a key. -/
def indicator (lexer : Lexer) (token : Token) (keyAllowed : Bool) : Option Lexer := do
  let lexer ← lexer.dropCandidate
  some { lexer.push token (lexer.cursor.skip 1) with keyAllowed := keyAllowed }

/-- An indicator that opens a block if it is the first of its kind there. -/
def blockIndicator (lexer : Lexer) (opening token : Token) (keyAllowed : Bool) : Option Lexer :=
  if lexer.flow = 0 then
    if lexer.keyAllowed then
      (lexer.openBlock lexer.cursor.column opening lexer.count).indicator token keyAllowed
    else none
  else lexer.indicator token keyAllowed

/-- The colon after a key. -/
def valueIndicator (lexer : Lexer) : Option Lexer := do
  match ← lexer.liveCandidate with
  | some candidate =>
    let lexer := lexer.insert .key candidate.position
    let lexer := lexer.openBlock candidate.column .blockMappingStart candidate.position
    some { lexer.push .value (lexer.cursor.skip 1) with candidate := none, keyAllowed := false }
  | none =>
    let lexer := { lexer with candidate := none }
    if lexer.flow = 0 then
      if lexer.keyAllowed then
        let lexer := lexer.openBlock lexer.cursor.column .blockMappingStart lexer.count
        some (lexer.push .value (lexer.cursor.skip 1))
      else none
    else some { lexer.push .value (lexer.cursor.skip 1) with keyAllowed := false }

/-- A document marker. -/
def documentMarker (lexer : Lexer) (token : Token) : Option Lexer := do
  let lexer ← (lexer.closeBlocks (-1)).dropCandidate
  some { lexer.push token (lexer.cursor.skip 3) with keyAllowed := false }

/-- The name of an anchor or an alias. -/
def anchorName (lexer : Lexer) (token : String → Token) : Option Lexer := do
  let lexer ← lexer.saveCandidate
  let (name, after) := (lexer.cursor.skip 1).span isWordChar
  if name.isEmpty || !(after.blankOrEnd 0 || after.sees ("?:,]\x7d%@\x60".contains ·)) then none
  else some { lexer.push (token (String.ofList name)) after with keyAllowed := false }

/-- A scalar that may be a key. -/
def flowScalar (lexer : Lexer) (style : Style) (single : Bool) : Option Lexer := do
  let lexer ← lexer.saveCandidate
  let (text, after) ← readQuoted single lexer.cursor
  some { lexer.push (.scalar style (String.ofList text)) after with keyAllowed := false }

/-- A plain scalar.  A key may begin after it if it ended with a line break. -/
def plainScalar (lexer : Lexer) : Option Lexer := do
  let lexer ← lexer.saveCandidate
  let plain ← readPlain (lexer.flow ≠ 0) (lexer.indent + 1) lexer.cursor
  some { lexer.push (.scalar .plain (String.ofList plain.text)) plain.after with
    keyAllowed := plain.broken }

/-- A block scalar. -/
def blockScalar (lexer : Lexer) (style : Style) (fold : Bool) : Option Lexer := do
  let lexer ← lexer.dropCandidate
  let (text, after) ← readBlock fold lexer.indent lexer.cursor
  some { lexer.push (.scalar style (String.ofList text)) after with keyAllowed := true }

/-! ## Tags and directives -/

/-- A character that may stand in a tag; a percent sign begins an encoded one. -/
def isTagChar (verbatim : Bool) (c : Char) : Bool :=
  isWordChar c || ";/?:@&=+$.%!~*'()".contains c || (verbatim && ",[]".contains c)

/-- Bytes of text in which a percent sign and two hexadecimal digits stand for one byte. -/
def percentDecode : List Char → Option (List UInt8)
  | [] => some []
  | '%' :: a :: b :: rest => do
    let high ← hexValue? a
    let low ← hexValue? b
    let bytes ← percentDecode rest
    some (UInt8.ofNat (16 * high + low) :: bytes)
  | '%' :: _ => none
  | c :: rest => (percentDecode rest).map ((String.singleton c).toUTF8.toList ++ ·)

/-- Text in which characters may be percent-encoded. -/
def decodeTag (cs : List Char) : Option String := do
  let bytes ← percentDecode cs
  String.fromUTF8? (ByteArray.mk bytes.toArray)

/-- A tag handle: an exclamation mark, and perhaps a word and a second mark. -/
def tagHandle (c : Cursor) : Option (List Char × Bool × Cursor) :=
  if c.sees (· == '!') then
    let (word, after) := (c.skip 1).span isWordChar
    if after.sees (· == '!') then some ('!' :: word ++ ['!'], true, after.skip 1)
    else some ('!' :: word, false, after)
  else none

/-- A tag. -/
def tagToken (lexer : Lexer) : Option Lexer := do
  let lexer ← lexer.saveCandidate
  let c := lexer.cursor
  let (handle, suffix, after) ←
    if c.seesAt 1 (· == '<') then
      let (uri, after) := (c.skip 2).span (isTagChar true)
      if uri.isEmpty || !after.sees (· == '>') then none
      else (decodeTag uri).map fun suffix => ("", suffix, after.skip 1)
    else do
      let (head, closed, after) ← tagHandle c
      let (rest, after) := after.span (isTagChar false)
      if closed then
        if rest.isEmpty then none
        else (decodeTag rest).map fun suffix => (String.ofList head, suffix, after)
      else
        let suffix ← decodeTag (head.drop 1 ++ rest)
        some (if suffix.isEmpty then ("", "!", after) else ("!", suffix, after))
  if after.blankOrEnd 0 || (lexer.flow ≠ 0 && after.sees (· == ',')) then
    some { lexer.push (.tag handle suffix) after with keyAllowed := false }
  else none

/-- A decimal number of at most nine digits. -/
def directiveNumber (c : Cursor) : Option (Nat × Cursor) :=
  let (digits, after) := c.span Char.isDigit
  if digits.isEmpty || 9 < digits.length then none
  else some (digits.foldl (fun n d => 10 * n + (d.toNat - '0'.toNat)) 0, after)

/-- A directive. -/
def directive (lexer : Lexer) : Option Lexer := do
  let lexer ← (lexer.closeBlocks (-1)).dropCandidate
  let (name, c) := (lexer.cursor.skip 1).span isWordChar
  if !c.blankOrEnd 0 then none
  else
    let (token, c) ← match String.ofList name with
      | "YAML" => do
        let (major, c) ← directiveNumber (c.skipWhile isBlank)
        if c.sees (· == '.') then
          let (minor, c) ← directiveNumber (c.skip 1)
          some (Token.versionDirective major minor, c)
        else none
      | "TAG" => do
        let (handle, closed, c) ← tagHandle (c.skipWhile isBlank)
        if (closed || handle == ['!']) && c.sees isBlank then
          let (stem, c) := (c.skipWhile isBlank).span (isTagChar true)
          let decoded ← decodeTag stem
          if stem.isEmpty || !c.blankOrEnd 0 then none
          else some (Token.tagDirective (String.ofList handle) decoded, c)
        else none
      | _ => none
    let c := c.skipWhile isBlank
    let c := if c.sees (· == '#') then c.skipWhile fun _ => true else c
    if c.lineEnds then
      some { lexer.push token ((c.lineBreak?.map Prod.snd).getD c) with keyAllowed := false }
    else none

/-! ## All tokens -/

/-- Characters that do not begin a plain scalar by themselves. -/
def isIndicator (c : Char) : Bool :=
  "-?:,[]\x7b\x7d#&*!|>'\"%@\x60".contains c

/-- Read the token at this place, which begins with `ch`. -/
def tokenAt (lexer : Lexer) (ch : Char) : Option Lexer :=
  let c := lexer.cursor
  let inFlow : Bool := lexer.flow ≠ 0
  if c.column == 0 && ch == '%' then lexer.directive
  else if c.seesDocumentMarker then
    lexer.documentMarker (if ch == '-' then .documentStart else .documentEnd)
  else if ch == '[' then lexer.openFlow .flowSequenceStart
  else if ch == '\x7b' then lexer.openFlow .flowMappingStart
  else if ch == ']' then lexer.closeFlow .flowSequenceEnd
  else if ch == '\x7d' then lexer.closeFlow .flowMappingEnd
  else if ch == ',' then lexer.indicator .flowEntry true
  else if ch == '-' && c.blankOrEnd 1 then
    lexer.blockIndicator .blockSequenceStart .blockEntry true
  else if ch == '?' && (inFlow || c.blankOrEnd 1) then
    lexer.blockIndicator .blockMappingStart .key (!inFlow)
  else if ch == ':' && (inFlow || c.blankOrEnd 1) then lexer.valueIndicator
  else if ch == '*' then lexer.anchorName .alias
  else if ch == '&' then lexer.anchorName .anchor
  else if ch == '!' then lexer.tagToken
  else if ch == '|' && !inFlow then lexer.blockScalar .literal false
  else if ch == '>' && !inFlow then lexer.blockScalar .folded true
  else if ch == '\'' then lexer.flowScalar .singleQuoted true
  else if ch == '"' then lexer.flowScalar .doubleQuoted false
  else if !isBlank ch && !isIndicator ch || (ch == '-' && !c.seesAt 1 isBlank)
      || (!inFlow && (ch == '?' || ch == ':') && !c.blankOrEnd 1) then lexer.plainScalar
  else none

/-- Read all tokens to the end of the text. -/
def run (lexer : Lexer) : Option (List Token) :=
  let here := lexer.skipToToken
  match here.cursor.peek? 0 with
  | none => do
    let done ← (here.closeBlocks (-1)).dropCandidate
    some done.tokens.reverse
  | some ch =>
    match (here.closeBlocks here.cursor.column).tokenAt ch with
    | none => none
    | some next =>
      if _h : next.cursor.remaining < lexer.cursor.remaining then next.run else none
termination_by lexer.cursor.remaining

end Lexer

/-- Whether a character may stand in a text at all. -/
def isPrintable (c : Char) : Bool :=
  let n := c.toNat
  n == 9 || n == 10 || n == 13 || (0x20 ≤ n && n ≤ 0x7E) || n == 0x85 || (0xA0 ≤ n && n ≤ 0xFFFD)
    || 0x10000 ≤ n

/-- The tokens of a text.  A byte order mark before it is ignored. -/
def Token.ofText? (text : String) : Option (List Token) :=
  let chars := match text.toList with
    | '\ufeff' :: rest => rest
    | all => all
  if chars.all isPrintable then (Lexer.start chars).run else none

end ModemLink.Yaml
