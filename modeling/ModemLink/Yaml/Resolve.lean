/-
Module: ModemLink.Yaml.Resolve
Purpose: What the scalars of a YAML text stand for, and typed values read from its nodes.
Main exports: Node.real?, Node.optional, Node.items?, Node.entries?, Node.toData?
-/
import ModemLink.Data
import ModemLink.Text.Number
import ModemLink.Yaml.Node

namespace ModemLink.Yaml

/-!
Where the type of a value is known, a plain scalar is read as that type, whatever its tag; a literal
block scalar needs the tag of the type, and quotes make a scalar text.  Text may be written in any
style.  Where the type is not known, the looks of a plain scalar decide.
-/

/-- The full tag of a type of the core schema. -/
def coreTag (name : String) : String :=
  "tag:yaml.org,2002:" ++ name

/-- The words for nothing. -/
def isNull (text : String) : Bool :=
  ["null", "Null", "NULL", "~"].contains text

/-- The words for the truth values. -/
def bool? (text : String) : Option Bool :=
  if ["true", "True", "TRUE"].contains text then some true
  else if ["false", "False", "FALSE"].contains text then some false
  else none

/-- A number that is not negative, below 2^64. -/
def natural? (text : String) : Option Nat :=
  (Text.natural? text.toList).filter (· < Nat.pow 2 64)

/-- A whole number of 64 bits. -/
def integer? (text : String) : Option Int :=
  (Text.integer? text.toList).filter fun n => -Int.pow 2 63 ≤ n ∧ n < Int.pow 2 63

/-- Digits behind a leading zero, perhaps behind a sign. -/
def isPadded (text : String) : Bool :=
  match text.toList with
  | '-' :: rest | '+' :: rest => Text.isPadded rest
  | cs => Text.isPadded cs

namespace Node

/-- The text of a scalar that a type with a given tag may be read from. -/
def typedText? (type : String) : Node → Option String
  | scalar _ .plain text => some text
  | scalar (some tag) .literal text => if tag = coreTag type then some text else none
  | _ => none

/-- The text of a scalar. -/
def text? : Node → Option String
  | scalar _ _ text => some text
  | _ => none

/-- A real; whole numbers are reals too. -/
def real? (node : Node) : Option Float :=
  node.typedText? "float" >>= Text.real?

/-- Whether a tag is one of the text's own; such a tag names an alternative. -/
def isLocal (tag : Option String) : Bool :=
  tag.any (·.startsWith "!")

/-- The name of one of several alternatives: the text of a scalar, or the local tag of one that
stands for nothing. -/
def choice? : Node → Option String
  | scalar tag style text =>
    match tag.map String.toList with
    | some ('!' :: name) =>
      if style = .plain ∧ (text.isEmpty || isNull text) then some (String.ofList name) else none
    | _ => some text
  | _ => none

instance : Source Node where
  text? := text?
  natural? node := node.typedText? "int" >>= natural?
  integer? node := node.typedText? "int" >>= integer?
  bool? node := node.typedText? "bool" >>= Yaml.bool?
  choice? := choice?

/-- A value that may be absent; the outer option fails where a tag for nothing is on something. -/
def optional (node : Node) : Option (Option Node) :=
  match node with
  | void => some none
  | scalar tag .plain text =>
    if tag = some (coreTag "null") then
      if isNull text then some none else none
    else if tag = none ∧ (text.isEmpty || isNull text) then some none
    else some (some node)
  | _ => some (some node)

/-- Whether a node is left out, which stands for a collection of nothing. -/
def isLeftOut : Node → Bool
  | void => true
  | scalar _ .plain text => text.isEmpty
  | _ => false

/-- The items of a list. -/
def items? (node : Node) : Option (List Node) :=
  match node with
  | sequence _ items => some items
  | _ => if node.isLeftOut then some [] else none

/-- The entries of a record. -/
def entries? (node : Node) : Option (List (Node × Node)) :=
  match node with
  | mapping _ entries => some entries
  | _ => if node.isLeftOut then some [] else none

/-! ## Values of unknown type -/

/-- The whole number that a plain scalar looks like.  One that is too large for 64 bits is refused
up to 128 bits; beyond them it is no whole number. -/
def wholeData? (text : String) : Option (Option Data) :=
  match Text.integer? text.toList with
  | none => none
  | some n =>
    if text.startsWith "-" then
      if -Int.pow 2 63 ≤ n then some (some (.negative n))
      else if -Int.pow 2 127 ≤ n then some none
      else none
    else if n < Int.pow 2 64 then some (some (.natural n.toNat))
    else if n < Int.pow 2 128 then some none
    else none

/-- What a plain scalar without a tag looks like. -/
def plainData? (text : String) : Option Data :=
  if text.isEmpty || isNull text then some .null
  else
    match bool? text with
    | some value => some (.bool value)
    | none =>
      match wholeData? text with
      | some result => result
      | none =>
        match if isPadded text then none else Text.real? text with
        | some x => some (.real x)
        | none => some (.text text)

/-- What a scalar stands for where its type is not known.  A tag of the core schema decides; a local
tag is refused, as it names an alternative of an unknown type. -/
def scalarData? (tag : Option String) (style : Style) (text : String) : Option Data :=
  match tag with
  | none => if style = .plain then plainData? text else some (.text text)
  | some tag =>
    if tag.startsWith "!" then none
    else if tag = coreTag "bool" then (bool? text).map .bool
    else if tag = coreTag "int" then (wholeData? text).join
    else if tag = coreTag "float" then (Text.real? text).map .real
    else if tag = coreTag "null" then if isNull text then some .null else none
    else some (.text text)

mutual

/-- The value of a node whose type is not known. -/
def toData? : Node → Option Data
  | void => some .null
  | scalar tag style text => scalarData? tag style text
  | sequence tag items => if isLocal tag then none else (itemsData? items).map .list
  | mapping tag entries => if isLocal tag then none else (entriesData? entries).map .record

/-- The values of some nodes. -/
def itemsData? : List Node → Option (List Data)
  | [] => some []
  | item :: rest => do
    let value ← item.toData?
    some (value :: (← itemsData? rest))

/-- The values of some pairs of nodes. -/
def entriesData? : List (Node × Node) → Option (List (Data × Data))
  | [] => some []
  | (key, value) :: rest => do
    let keyData ← key.toData?
    let valueData ← value.toData?
    some ((keyData, valueData) :: (← entriesData? rest))

end

end Node

end ModemLink.Yaml
