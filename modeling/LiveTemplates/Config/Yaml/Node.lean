import LiveTemplates.Assoc
import LiveTemplates.Config.Yaml.Tokens
import LiveTemplates.Decimal.Reading

set_option autoImplicit false

/-! # From tokens to the nodes of a document

A node is a scalar, a sequence or a mapping. Plain scalars are resolved to null, truth values,
whole numbers and numbers, unless a tag tells the type. An alias stands for the node that was last
given its name. No key may be given twice to a mapping. -/

namespace LiveTemplates

namespace Yaml

/-- What a scalar stands for. -/
inductive Content where
  | nothing
  | truth (value : Bool)
  | whole (value : Int)
  /-- A number, as it is written. -/
  | number (text : String)
  | text (text : String)
  /-- Not what its tag says. -/
  | unfit
  deriving DecidableEq, Inhabited

/-- A node. The key of an entry is none if it is no scalar. -/
inductive Node where
  | scalar (content : Content)
  | sequence (items : List Node)
  | mapping (entries : List (Option Content × Node))
  deriving Inhabited

/-! ## Scalars -/

/-- A whole number of 64 bits in a base, with perhaps a sign. -/
def readWhole? (base : Nat) (cs : List Char) : Option Int :=
  let (negative, digits) :=
    match cs with
    | '-' :: rest => (true, rest)
    | '+' :: rest => (false, rest)
    | cs => (false, cs)
  let value? (c : Char) : Option Nat := (Json.hexDigit? c).filter (· < base)
  if digits.isEmpty || digits.any fun c => (value? c).isNone then none
  else
    let n : Nat := digits.foldl (fun n c => base * n + (value? c).getD 0) 0
    (Number.whole (if negative then -n else n)).asInt?

/-- The words for numbers without digits. -/
def numberWords : List String := [
  ".inf", ".Inf", ".INF", "+.inf", "+.Inf", "+.INF", "-.inf", "-.Inf", "-.INF", ".nan", "NaN",
  ".NAN"]

/-- Whether a text is a number. -/
def isNumber (text : String) : Bool :=
  numberWords.contains text || (Double.parse? text).isSome

/-- A whole number with a mark of its base, or after a plus sign. -/
def readMarked? (text : String) : Option Int :=
  match text.toList with
  | '0' :: 'x' :: rest => readWhole? 16 rest
  | '0' :: 'o' :: rest => readWhole? 8 rest
  | '+' :: rest => readWhole? 10 rest
  | _ => none

/-- What a plain scalar stands for. -/
def resolve (text : String) : Content :=
  match readMarked? text with
  | some i => .whole i
  | none =>
    if text = "~" ∨ text = "null" then .nothing
    else if text = "true" then .truth true
    else if text = "false" then .truth false
    else
      match readWhole? 10 text.toList with
      | some i => .whole i
      | none => if isNumber text then .number text else .text text

/-- A tag: what its handle means, and its suffix. -/
structure Tag where
  handle : String
  suffix : String
  deriving DecidableEq, Inhabited

/-- What the handle of the common types means. -/
def commonMeaning : String := "tag:yaml.org,2002:"

/-- What a plain scalar with a tag stands for. -/
def resolveAs (tag : Tag) (text : String) : Content :=
  if tag.handle ≠ commonMeaning then .text text
  else
    match tag.suffix with
    | "bool" =>
      if text = "true" then .truth true else if text = "false" then .truth false else .unfit
    | "int" => ((readWhole? 10 text.toList).map .whole).getD .unfit
    | "float" => if isNumber text then .number text else .unfit
    | "null" => if text = "~" ∨ text = "null" then .nothing else .unfit
    | _ => .text text

/-! ## Reading along the tokens -/

/-- What is known while a document is read. -/
structure Known where
  rest : List Token
  /-- The numbers of the nodes that were given names last. -/
  names : List (String × Nat) := []
  /-- The nodes with a name, by number, as far as they are complete. -/
  nodes : List (Nat × Node) := []
  /-- How many nodes were given names. -/
  count : Nat := 0
  /-- The meanings of handles. -/
  meanings : List (String × String) := []
  deriving Inhabited

/-- Reads along the tokens, or finds them at fault. -/
abbrev Reader (α : Type) := StateT Known Option α

/-- The token that comes next. -/
def peek : Reader Token := do
  match (← get).rest with
  | token :: _ => return token
  | [] => failure

/-- Pass the token that comes next. -/
def advance : Reader Unit :=
  modify fun known => { known with rest := known.rest.tail }

/-- The node that is not there. -/
def nothing : Node := .scalar .nothing

/-- A tag with what its handle means. A handle that ends as it begins must have a meaning. -/
def meant (handle suffix : String) : Reader Tag := do
  match Assoc.find? handle (← get).meanings with
  | some meaning => return ⟨meaning, suffix⟩
  | none =>
    if handle = "!!" then return ⟨commonMeaning, suffix⟩
    else if isHandle handle then failure
    else return ⟨handle, suffix⟩

/-- A tag, if one comes next. -/
def tag? : Reader (Option Tag) := do
  match ← peek with
  | .tag handle suffix =>
    advance
    return some (← meant handle suffix)
  | _ => return none

/-- The number of a node whose name comes next. -/
def anchor? : Reader (Option Nat) := do
  match ← peek with
  | .anchor name =>
    modify fun known =>
      { known with
        rest := known.rest.tail
        names := Assoc.set name (known.count + 1) known.names
        count := known.count + 1 }
    return some (← get).count
  | _ => return none

/-- The properties of a node, one of each at most, in either order. -/
def properties : Reader (Option Nat × Option Tag) := do
  match ← anchor? with
  | some number => return (some number, ← tag?)
  | none =>
    let tag ← tag?
    let number ← if tag.isSome then anchor? else pure none
    return (number, tag)

/-- The node that an alias stands for; one within itself is not complete. -/
def aliased (name : String) : Reader Node := do
  let known ← get
  match Assoc.find? name known.names with
  | some number => return (Assoc.find? number known.nodes).getD (.scalar .unfit)
  | none => failure

/-- Keep a node under its number. -/
def keep (number : Option Nat) (node : Node) : Reader Unit :=
  match number with
  | some number => modify fun known => { known with nodes := Assoc.set number node known.nodes }
  | none => pure ()

/-- The content of a node that is a scalar. -/
def Node.content? : Node → Option Content
  | scalar content => some content
  | _ => none

/-- Put nodes that are keys and values by turns into entries, the last one first. A key that is not
what its tag says is passed over. A key must not come twice. -/
def pairUp : (key : Option Node) → List Node → List (Option Content × Node) →
    Option (List (Option Content × Node))
  | _, [], entries => some entries.reverse
  | none, node :: rest, entries =>
    pairUp (if node.content? = some .unfit then none else some node) rest entries
  | some key, node :: rest, entries =>
    if key.content?.isSome && entries.any fun entry => entry.1 = key.content? then none
    else pairUp none rest ((key.content?, node) :: entries)

/-- The mapping of nodes that are keys and values by turns, the last one first. -/
def mappingOf (nodes : List Node) : Reader Node :=
  match pairUp none nodes.reverse [] with
  | some entries => pure (.mapping entries)
  | none => failure

/-! ## Nodes -/

mutual

/-- A node, after which more tokens come. -/
def readNode : (fuel : Nat) → (inBlock besideKey : Bool) → Reader Node
  | 0, _, _ => failure
  | fuel + 1, inBlock, besideKey => do
    match ← peek with
    | .alias name =>
      advance
      aliased name
    | _ =>
      let (number, tag) ← properties
      let node ← (do
        match ← peek with
        | .scalar isPlain text =>
          advance
          return .scalar
            (if isPlain then ((tag.map fun tag => resolveAs tag text).getD (resolve text))
            else .text text)
        | .flowSequenceStart =>
          advance
          readFlowItems fuel true []
        | .flowMappingStart =>
          advance
          readFlowEntries fuel true []
        | token =>
          if token = .blockEntry && besideKey then readPlainItems fuel []
          else if token = .blockSequenceStart && inBlock then
            advance
            readItems fuel []
          else if token = .blockMappingStart && inBlock then
            advance
            readEntries fuel []
          else if number.isSome || tag.isSome then
            return .scalar ((tag.map fun tag => resolveAs tag "").getD (resolve ""))
          else failure)
      keep number node
      return node

/-- A node, or nothing where one of some tokens comes instead. -/
def readUnless : (fuel : Nat) → (ends : List Token) → (inBlock besideKey : Bool) → Reader Node
  | 0, _, _, _ => failure
  | fuel + 1, ends, inBlock, besideKey => do
    if ends.contains (← peek) then return nothing
    readNode fuel inBlock besideKey

/-- The items of a block; those before come first, last one first. -/
def readItems : (fuel : Nat) → List Node → Reader Node
  | 0, _ => failure
  | fuel + 1, before => do
    match ← peek with
    | .blockEnd =>
      advance
      return .sequence before.reverse
    | .blockEntry =>
      advance
      let item ← readUnless fuel [.blockEntry, .blockEnd] true false
      readItems fuel (item :: before)
    | _ => failure

/-- The items of a sequence at the column of the key before it. -/
def readPlainItems : (fuel : Nat) → List Node → Reader Node
  | 0, _ => failure
  | fuel + 1, before => do
    match ← peek with
    | .blockEntry =>
      advance
      let item ← readUnless fuel [.blockEntry, .key, .value, .blockEnd] true false
      readPlainItems fuel (item :: before)
    | _ => return .sequence before.reverse

/-- The value after a key. -/
def readValue : (fuel : Nat) → (ends : List Token) → (inBlock besideKey : Bool) → Reader Node
  | 0, _, _, _ => failure
  | fuel + 1, ends, inBlock, besideKey => do
    if (← peek) = .value then
      advance
      readUnless fuel ends inBlock besideKey
    else return nothing

/-- The entries of a block; the keys and values before come first, last one first. -/
def readEntries : (fuel : Nat) → List Node → Reader Node
  | 0, _ => failure
  | fuel + 1, before => do
    let ends := [Token.key, .value, .blockEnd]
    match ← peek with
    | .blockEnd =>
      advance
      mappingOf before
    | .key =>
      advance
      let key ← readUnless fuel ends true true
      let value ← readValue fuel ends true true
      readEntries fuel (value :: key :: before)
    | .value =>
      let value ← readValue fuel ends true true
      readEntries fuel (value :: nothing :: before)
    | _ => failure

/-- The entries of a mapping in brackets. -/
def readFlowEntries : (fuel : Nat) → (first : Bool) → List Node → Reader Node
  | 0, _, _ => failure
  | fuel + 1, first, before => do
    if (← peek) = .flowMappingEnd then
      advance
      mappingOf before
    else
      if !first then
        if (← peek) ≠ .flowEntry then failure
        advance
      let ends := [Token.flowEntry, .flowMappingEnd]
      match ← peek with
      | .flowMappingEnd =>
        advance
        mappingOf before
      | .key =>
        advance
        let key ← readUnless fuel (.value :: ends) false false
        let value ← readValue fuel ends false false
        readFlowEntries fuel false (value :: key :: before)
      | .value =>
        let value ← readValue fuel ends false false
        readFlowEntries fuel false (value :: nothing :: before)
      | _ =>
        let key ← readNode fuel false false
        readFlowEntries fuel false (nothing :: key :: before)

/-- The items of a sequence in brackets. -/
def readFlowItems : (fuel : Nat) → (first : Bool) → List Node → Reader Node
  | 0, _, _ => failure
  | fuel + 1, first, before => do
    if (← peek) = .flowSequenceEnd then
      advance
      return .sequence before.reverse
    else
      if !first then
        if (← peek) ≠ .flowEntry then failure
        advance
      match ← peek with
      | .flowSequenceEnd =>
        advance
        return .sequence before.reverse
      | .key =>
        advance
        let pair ← readPair fuel
        readFlowItems fuel false (pair :: before)
      | _ =>
        let item ← readNode fuel false false
        readFlowItems fuel false (item :: before)

/-- A mapping of a single pair that is an item of a sequence in brackets, after the sign of its
key. The token that comes in place of a key is passed. -/
def readPair : (fuel : Nat) → Reader Node
  | 0 => failure
  | fuel + 1 => do
    let ends := [Token.flowEntry, .flowSequenceEnd]
    let key ← (do
      if (.value :: ends).contains (← peek) then
        advance
        return nothing
      readNode fuel false false)
    let value ← readValue fuel ends false false
    mappingOf [value, key]

end

/-! ## Documents -/

/-- Pass the directives before a document. Only the last one tells the meaning of a handle, and the
version must not be told twice. -/
def passDirectives : (fuel : Nat) → (versioned : Bool) → Reader Unit
  | 0, _ => failure
  | fuel + 1, versioned => do
    match ← peek with
    | .version =>
      if versioned then failure
      modify fun known => { known with rest := known.rest.tail, meanings := [] }
      passDirectives fuel true
    | .tagDirective handle meaning =>
      modify fun known => { known with rest := known.rest.tail, meanings := [(handle, meaning)] }
      passDirectives fuel versioned
    | _ => return ()

/-- Pass markers of ends of documents. -/
def passEnds : (fuel : Nat) → Reader Unit
  | 0 => failure
  | fuel + 1 => do
    if (← peek) = .documentEnd then
      advance
      passEnds fuel

/-- Whether a token can only stand before a document. -/
def Token.isDirective : Token → Bool
  | version | tagDirective _ _ => true
  | _ => false

/-- The root of the next document, unless the source has ended. A document without a marker of its
start is allowed where `implicit` says so. -/
def readDocument (fuel : Nat) (implicit : Bool) : Reader (Option Node) := do
  passEnds fuel
  let token ← peek
  if token = .sourceEnd then return none
  let marked := token.isDirective || token = .documentStart || !implicit
  if !marked then return some (← readNode fuel true false)
  passDirectives fuel false
  if (← peek) ≠ .documentStart then failure
  advance
  let token ← peek
  if token.isDirective || [.documentStart, .documentEnd, .sourceEnd].contains token then
    return some nothing
  return some (← readNode fuel true false)

/-- The root of the only document of a source; none if the source has no document. -/
def readSource (fuel : Nat) : Reader (Option Node) := do
  match ← readDocument fuel true with
  | none => return none
  | some root =>
    let ended := (← peek) = .documentEnd
    if ended then advance
    else if (← peek).isDirective then failure
    match ← readDocument fuel ended with
    | none => return some root
    | some _ => failure

/-- The root of the only document of a source; nothing if the source has no document. -/
def document? (source : String) : Option (Option Node) := do
  let tokens ← tokens? source
  let (root, _) ← (readSource (4 * tokens.length + 8)).run { rest := tokens }
  return root

end Yaml

end LiveTemplates
