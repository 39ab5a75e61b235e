/-
Module: ModemLink.Yaml.Node
Purpose: The tree of values that a YAML text stands for.
Main exports: Node, Node.ofText?
-/
import ModemLink.Yaml.Token

namespace ModemLink.Yaml

/-!
The tokens of a text are grouped into nodes by recursive descent.  Each call either consumes a token
or hands over to one that does, so that the number of tokens bounds the depth of the descent.
-/

/-- A value of a YAML text. -/
inductive Node where
  /-- What a text without any document stands for. -/
  | void
  | scalar (tag : Option String) (style : Style) (text : String)
  | sequence (tag : Option String) (items : List Node)
  | mapping (tag : Option String) (entries : List (Node × Node))
deriving Inhabited

namespace Node

/-- A scalar that is left out. -/
def blank : Node :=
  .scalar none .plain ""

/-- Tokens that are left, what tag handles stand for, and the anchors met so far.  The node of an
anchor is not known while it is being read. -/
structure Reading where
  tokens : List Token
  handles : List (String × String)
  anchors : List (String × Option Node)

namespace Reading

/-- The handles that need no directive. -/
def knownHandles : List (String × String) :=
  [("!", "!"), ("!!", "tag:yaml.org,2002:")]

/-- Whether the next token is one of some. -/
def sees (r : Reading) (tokens : List Token) : Bool :=
  match r.tokens with
  | token :: _ => tokens.contains token
  | [] => false

/-- Go past the next token. -/
def skip (r : Reading) : Reading :=
  { r with tokens := r.tokens.drop 1 }

/-- The next token has to be a given one; go past it. -/
def expect (r : Reading) (token : Token) : Option Reading :=
  if r.sees [token] then some r.skip else none

/-- The tag that a handle and a suffix stand for.  A verbatim tag has no handle. -/
def resolve (r : Reading) (handle suffix : String) : Option String :=
  if handle.isEmpty then some suffix else (r.handles.lookup handle).map (· ++ suffix)

/-- Read the anchor and the tag of a node, which come in either order. -/
def properties (r : Reading) : Option (Option String × Option String × Reading) :=
  match r.tokens with
  | .anchor name :: .tag handle suffix :: rest | .tag handle suffix :: .anchor name :: rest => do
    let tag ← r.resolve handle suffix
    some (some name, some tag, { r with tokens := rest })
  | .anchor name :: rest => some (some name, none, { r with tokens := rest })
  | .tag handle suffix :: rest => do
    let tag ← r.resolve handle suffix
    some (none, some tag, { r with tokens := rest })
  | _ => some (none, none, r)

/-- Give a node to the anchor in front of it. -/
def bind (r : Reading) (anchor : Option String) (node : Option Node) : Reading :=
  match anchor with
  | some name => { r with anchors := (name, node) :: r.anchors }
  | none => r

end Reading

/-- Where a node stands, which decides what may begin there. -/
inductive Place where
  | flow
  | block
  /-- A block in which a sequence may begin without indentation. -/
  | flush
deriving DecidableEq

mutual

/-- Read a node. -/
def read (fuel : Nat) (place : Place) (r : Reading) : Option (Node × Reading) :=
  match fuel with
  | 0 => none
  | fuel + 1 =>
    match r.tokens with
    | .alias name :: _ => do
      let node ← (r.anchors.lookup name).join
      some (node, r.skip)
    | _ => do
      let (anchor, tag, r) ← r.properties
      let mayBeBlank := anchor.isSome || tag.isSome
      let (node, after) ← readContent fuel place tag mayBeBlank (r.bind anchor none)
      some (node, after.bind anchor (some node))

/-- Read a node whose anchor and tag have been read. -/
def readContent (fuel : Nat) (place : Place) (tag : Option String) (mayBeBlank : Bool)
    (r : Reading) : Option (Node × Reading) :=
  match fuel with
  | 0 => none
  | fuel + 1 =>
    let sequence (result : Option (List Node × Reading)) : Option (Node × Reading) :=
      result.map fun (items, r) => (.sequence tag items, r)
    let mapping (result : Option (List (Node × Node) × Reading)) : Option (Node × Reading) :=
      result.map fun (entries, r) => (.mapping tag entries, r)
    let scalarTag := tag.filter (· ≠ "!")
    match r.tokens with
    | .scalar style text :: _ => some (.scalar scalarTag style text, r.skip)
    | .flowSequenceStart :: _ => sequence (readFlowItems fuel true r.skip)
    | .flowMappingStart :: _ => mapping (readFlowEntries fuel true r.skip)
    | _ =>
      if place = .flush ∧ r.sees [.blockEntry] then sequence (readFlushItems fuel r)
      else if place ≠ .flow ∧ r.sees [.blockSequenceStart] then
        sequence (readBlockItems fuel r.skip)
      else if place ≠ .flow ∧ r.sees [.blockMappingStart] then
        mapping (readBlockEntries fuel r.skip)
      else if mayBeBlank then some (.scalar scalarTag .plain "", r)
      else none

/-- Read a node, or a blank one if one of some tokens comes next. -/
def readUnless (fuel : Nat) (place : Place) (stops : List Token) (r : Reading) :
    Option (Node × Reading) :=
  match fuel with
  | 0 => none
  | fuel + 1 => if r.sees stops then some (blank, r) else read fuel place r

/-- Read the items of a block sequence. -/
def readBlockItems (fuel : Nat) (r : Reading) : Option (List Node × Reading) :=
  match fuel with
  | 0 => none
  | fuel + 1 =>
    if r.sees [.blockEnd] then some ([], r.skip)
    else do
      let (item, r) ← readUnless fuel .block [.blockEntry, .blockEnd] (← r.expect .blockEntry)
      let (items, r) ← readBlockItems fuel r
      some (item :: items, r)

/-- Read the items of a sequence that stands in a block mapping without indentation. -/
def readFlushItems (fuel : Nat) (r : Reading) : Option (List Node × Reading) :=
  match fuel with
  | 0 => none
  | fuel + 1 =>
    if r.sees [.blockEntry] then do
      let (item, r) ← readUnless fuel .block [.blockEntry, .key, .value, .blockEnd] r.skip
      let (items, r) ← readFlushItems fuel r
      some (item :: items, r)
    else some ([], r)

/-- Read the entries of a block mapping. -/
def readBlockEntries (fuel : Nat) (r : Reading) : Option (List (Node × Node) × Reading) :=
  match fuel with
  | 0 => none
  | fuel + 1 =>
    if r.sees [.blockEnd] then some ([], r.skip)
    else do
      let stops := [Token.key, .value, .blockEnd]
      let (key, r) ← readUnless fuel .flush stops (← r.expect .key)
      let (value, r) ←
        if r.sees [.value] then readUnless fuel .flush stops r.skip else some (blank, r)
      let (entries, r) ← readBlockEntries fuel r
      some ((key, value) :: entries, r)

/-- Read the items of a flow sequence. -/
def readFlowItems (fuel : Nat) (first : Bool) (r : Reading) : Option (List Node × Reading) :=
  match fuel with
  | 0 => none
  | fuel + 1 =>
    if r.sees [.flowSequenceEnd] then some ([], r.skip)
    else do
      let r ← if first then some r else r.expect .flowEntry
      if r.sees [.flowSequenceEnd] then some ([], r.skip)
      else do
        let (item, r) ← if r.sees [.key] then readPair fuel r.skip else read fuel .flow r
        let (items, r) ← readFlowItems fuel false r
        some (item :: items, r)

/-- Read a mapping of one entry without braces, which may be an item of a flow sequence.  Where the
key is left out, the token in its place is dropped. -/
def readPair (fuel : Nat) (r : Reading) : Option (Node × Reading) :=
  match fuel with
  | 0 => none
  | fuel + 1 => do
    let (key, r) ←
      if r.sees [.value, .flowEntry, .flowSequenceEnd] then some (blank, r.skip)
      else read fuel .flow r
    let (value, r) ←
      if r.sees [.value] then readUnless fuel .flow [.flowEntry, .flowSequenceEnd] r.skip
      else some (blank, r)
    some (.mapping none [(key, value)], r)

/-- Read the entries of a flow mapping. -/
def readFlowEntries (fuel : Nat) (first : Bool) (r : Reading) :
    Option (List (Node × Node) × Reading) :=
  match fuel with
  | 0 => none
  | fuel + 1 =>
    if r.sees [.flowMappingEnd] then some ([], r.skip)
    else do
      let r ← if first then some r else r.expect .flowEntry
      if r.sees [.flowMappingEnd] then some ([], r.skip)
      else do
        let stops := [Token.flowEntry, .flowMappingEnd]
        let (key, value, r) ←
          if r.sees [.key] then do
            let (key, r) ← readUnless fuel .flow (.value :: stops) r.skip
            let (value, r) ←
              if r.sees [.value] then readUnless fuel .flow stops r.skip else some (blank, r)
            some (key, value, r)
          else do
            let (key, r) ← read fuel .flow r
            some (key, blank, r)
        let (entries, r) ← readFlowEntries fuel false r
        some ((key, value) :: entries, r)

end

/-- Read the directives in front of a document: at most one version, which is 1.1 or 1.2, and no tag
handle twice.  The flag tells whether there was a version. -/
def readDirectives (versioned : Bool) (declared : List String) : List Token →
    Option (List (String × String) × List Token)
  | .versionDirective major minor :: rest =>
    if versioned ∨ major ≠ 1 ∨ (minor ≠ 1 ∧ minor ≠ 2) then none
    else readDirectives true declared rest
  | .tagDirective handle stem :: rest =>
    if declared.contains handle then none
    else do
      let (handles, rest) ← readDirectives versioned (handle :: declared) rest
      some ((handle, stem) :: handles, rest)
  | rest => some ([], rest)

/-- Whether a token is a directive. -/
def isDirective : Token → Bool
  | .versionDirective _ _ | .tagDirective _ _ => true
  | _ => false

/-- The node of a text with at most one document. -/
def ofTokens? (tokens : List Token) : Option Node := do
  let fuel := 4 * tokens.length + 4
  let (node, r) ← match tokens with
    | [] => some (.void, ⟨[], [], []⟩)
    | token :: _ =>
      if isDirective token ∨ token = .documentStart then do
        let (handles, rest) ← readDirectives false [] tokens
        let r ← (Reading.mk rest (handles ++ Reading.knownHandles) []).expect .documentStart
        if r.tokens.head?.all fun token =>
            isDirective token || token = .documentStart || token = .documentEnd then
          some (blank, r)
        else
          read fuel .block r
      else
        read fuel .block ⟨tokens, Reading.knownHandles, []⟩
  if (r.tokens.dropWhile (· = .documentEnd)).isEmpty then some node else none

/-- The node of a text, which holds at most one document. -/
def ofText? (text : String) : Option Node :=
  Token.ofText? text >>= ofTokens?

end Node

end ModemLink.Yaml
