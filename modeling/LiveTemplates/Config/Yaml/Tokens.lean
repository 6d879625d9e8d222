import LiveTemplates.Config.Yaml.Property
import LiveTemplates.Config.Yaml.Scalar

set_option autoImplicit false

/-! # From a source to its tokens

The next characters tell which token comes. Outside brackets the column of a token closes the blocks
to the right of it, and a key, a sign of a key, or an item opens a block. -/

namespace LiveTemplates

namespace Yaml

/-- How many brackets may be open. -/
def depthLimit : Nat := 255

/-- Leave the open blocks and give up any key, before a directive or a marker of a document. -/
def leaveBlocks : Reading Unit := do
  closeTo (-1)
  dropKey
  allowKey false

/-- End the mapping of a single pair that is open in the innermost sequence in brackets. -/
def endPair : Reading Unit := do
  match (← get).pairs with
  | true :: rest =>
    modify fun progress => { progress with mappingOpened := false, pairs := false :: rest }
    emit .flowMappingEnd
  | _ => return ()

/-- The opening sign of a collection in brackets. -/
def openBracket (token : Token) : Reading Unit := do
  noteKey
  openPlain
  if depthLimit ≤ (← get).depth then failure
  modify fun progress =>
    { progress with depth := progress.depth + 1, keys := {} :: progress.keys, keyAllowed := true }
  pass 1
  modify fun progress =>
    if token = .flowMappingStart then { progress with mappingOpened := true }
    else { progress with pairs := false :: progress.pairs }
  let _ ← passLineBlanks
  emit token

/-- The closing sign of a collection in brackets. -/
def closeBracket (token : Token) : Reading Unit := do
  dropKey
  modify fun progress =>
    if 0 < progress.depth then
      { progress with depth := progress.depth - 1, keys := progress.keys.tail }
    else progress
  allowKey false
  if token = .flowSequenceEnd then
    endPair
    modify fun progress => { progress with pairs := progress.pairs.tail }
  pass 1
  let _ ← passLineBlanks
  modify fun progress =>
    if 0 < progress.depth then { progress with adjacent := some progress.index } else progress
  emit token

/-- The comma between entries in brackets. -/
def nextEntry : Reading Unit := do
  dropKey
  allowKey true
  endPair
  pass 1
  let _ ← passLineBlanks
  emit .flowEntry

/-- Whether the last token is a property of a node at the start of a line. -/
def endsInProperty (progress : Progress) : Bool :=
  match progress.tokens.back? with
  | some (.anchor _) | some (.tag _ _) => progress.propertyColumn = 0
  | _ => false

/-- The sign of an item of a block. -/
def nextItem : Reading Unit := do
  let start ← get
  if 0 < start.depth || !start.keyAllowed then failure
  if endsInProperty start && start.column = 0 && -1 < start.indent then failure
  pass 1
  openBlock start.column none .blockSequenceStart
  let passed ← passLineBlanks
  let progress ← get
  if passed.tab && progress.next = '-' && endsWord progress.second then failure
  if isBreak progress.next || isFlowSign progress.next then openPlain
  dropKey
  allowKey true
  emit .blockEntry

/-- The sign of a key. -/
def keySign : Reading Unit := do
  let start ← get
  if start.depth = 0 then
    if !start.keyAllowed then failure
    openBlock start.column none .blockMappingStart
  else modify fun progress => { progress with mappingOpened := true }
  dropKey
  allowKey (start.depth = 0)
  pass 1
  passSeparation (start.rest.length + 1) false
  if (← look) = '\t' then failure
  emit .key

/-- The colon between a key and its value. In a sequence in brackets it begins a mapping of a single
pair. -/
def valueSign : Reading Unit := do
  let start ← get
  let place := start.keys.headD {}
  let isPair := !start.pairs.isEmpty && !start.mappingOpened
  if isPair then modify fun progress => { progress with pairs := true :: progress.pairs.tail }
  pass 1
  if (← look) = '\t' then
    let passed ← passLineBlanks
    if !passed.space && isHandleChar (← look) then failure
  if place.possible then
    emitAt place.token .key
    if isPair then
      if place.line < start.line then failure
      emitAt place.token .flowMappingStart
    openBlock place.column (some place.token) .blockMappingStart
    openPlain
    modify fun progress =>
      { progress with keys := { place with possible := false } :: progress.keys.tail }
    allowKey false
  else
    if isPair then emit .flowMappingStart
    if start.depth = 0 then
      if !start.keyAllowed then failure
      openBlock start.column none .blockMappingStart
    openPlain
    allowKey (start.depth = 0)
  emit .value

/-- A token that may be the whole of a key, or begin one. -/
def keyToken (token : Reading Token) : Reading Unit := do
  noteKey
  allowKey false
  let token ← token
  emit token

/-- A property of a node. -/
def property (token : Reading Token) : Reading Unit := do
  let column := (← get).column
  keyToken token
  modify fun progress => { progress with propertyColumn := column }

/-- A scalar in quotes. -/
def quoted (quote : Char) : Reading Unit := do
  noteKey
  allowKey false
  let token ← quotedScalar quote
  passToToken ((← get).rest.length + 1)
  modify fun progress => { progress with adjacent := some progress.index }
  emit token

/-- A literal or folded scalar. -/
def long (folds : Bool) : Reading Unit := do
  noteKey
  allowKey true
  let token ← longScalar folds
  emit token

/-- A marker of a document. -/
def documentMarker (token : Token) : Reading Unit := do
  leaveBlocks
  pass 3
  emit token
  if token = .documentEnd then
    let _ ← passLineBlanks
    if !endsLine (← look) then failure

/-- The end of the source. It stands at the start of a line. -/
def endSource : Reading Unit := do
  modify fun progress =>
    if progress.column = 0 then progress
    else { progress with column := 0, line := progress.line + 1 }
  if (← get).keys.any fun place => place.possible && place.required then failure
  modify fun progress =>
    { progress with keys := progress.keys.map fun place => { place with possible := false } }
  leaveBlocks
  emit .sourceEnd

/-- The next token, with the tokens that its place brings about. -/
def nextToken : Reading Unit := do
  passToToken ((← get).rest.length + 1)
  dropStaleKeys
  closeTo (← get).column
  let progress ← get
  let c := progress.next
  let second := progress.second
  let inBrackets := 0 < progress.depth
  if progress.rest.isEmpty then endSource
  else if progress.column = 0 && c = '%' then do
    leaveBlocks
    emit (← readDirective)
  else if progress.isMarker '-' then documentMarker .documentStart
  else if progress.isMarker '.' then documentMarker .documentEnd
  else if progress.column < progress.indent then failure
  else if c = '[' then openBracket .flowSequenceStart
  else if c = '\x7b' then openBracket .flowMappingStart
  else if c = ']' then closeBracket .flowSequenceEnd
  else if c = '\x7d' then closeBracket .flowMappingEnd
  else if c = ',' then nextEntry
  else if c = '-' && endsWord second then nextItem
  else if c = '?' && endsWord second then keySign
  else if c = ':' && (endsWord second
      || (inBrackets && (isFlowSign second || progress.adjacent = some progress.index))) then
    valueSign
  else if c = '*' then keyToken (return .alias (← anchorName))
  else if c = '&' then property (return .anchor (← anchorName))
  else if c = '!' then property readTag
  else if c = '|' && !inBrackets then long false
  else if c = '>' && !inBrackets then long true
  else if c = '\'' || c = '"' then quoted c
  else if c = '%' || c = '@' || c = '\x60' then failure
  else keyToken plainScalar

/-- All tokens up to the end of the source. -/
def allTokens : (fuel : Nat) → Reading Unit
  | 0 => failure
  | fuel + 1 => do
    nextToken
    if (← get).tokens.back? = some .sourceEnd then return ()
    allTokens fuel

/-- The tokens of a source, if it follows the rules. A null character ends a source. -/
def tokens? (source : String) : Option (List Token) :=
  let cs := source.toList.takeWhile (· ≠ sourceEndChar)
  ((allTokens (cs.length + 1)).run { rest := cs }).map fun (_, progress) => progress.tokens.toList

end Yaml

end LiveTemplates
