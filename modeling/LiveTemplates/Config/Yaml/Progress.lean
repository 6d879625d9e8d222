import LiveTemplates.Config.Yaml.Token

set_option autoImplicit false

/-! # How far the reading of a source has come

Besides the place in the source this is what decides on the tokens to come: the open blocks with
their columns, the depth of brackets, the places where a key may have begun, and the tokens so far.
A key is known as one only when its colon comes, so its tokens are then put in where it began. -/

namespace LiveTemplates

namespace Yaml

/-- A place where a key without a sign of its own may have begun. -/
structure KeyPlace where
  /-- A key may still have begun here. -/
  possible : Bool := false
  /-- Here must be a key. -/
  required : Bool := false
  /-- The number of tokens before it. -/
  token : Nat := 0
  index : Nat := 0
  line : Nat := 0
  column : Nat := 0
  deriving Inhabited

/-- The column of the block around an open block. -/
structure Level where
  column : Int
  /-- The open block has tokens for its start and its end. -/
  isBlock : Bool
  deriving Inhabited

/-- How far the reading of a source has come. -/
structure Progress where
  rest : List Char
  index : Nat := 0
  line : Nat := 0
  column : Nat := 0
  /-- Only blanks stand before the place on its line. -/
  leading : Bool := true
  tokens : Array Token := #[]
  /-- A key may begin here. -/
  keyAllowed : Bool := true
  /-- The last place where a key may have begun, for each open bracket, the innermost first. -/
  keys : List KeyPlace := [{}]
  /-- The column of the innermost block. -/
  indent : Int := -1
  /-- The blocks around, the innermost first. -/
  levels : List Level := []
  /-- The number of open brackets. -/
  depth : Nat := 0
  /-- Where a colon needs no blank after it, because a key in quotes or brackets ends there. -/
  adjacent : Option Nat := none
  /-- The column of the last property of a node. -/
  propertyColumn : Nat := 0
  /-- A mapping was opened by its sign. -/
  mappingOpened : Bool := false
  /-- For each open sequence in brackets whether a mapping of a single pair is open in it, the
  innermost first. -/
  pairs : List Bool := []
  deriving Inhabited

/-- Reads on, or finds the source at fault. -/
abbrev Reading (α : Type) := StateT Progress Option α

/-! ## Moving on -/

/-- The character that comes next. -/
def Progress.next (progress : Progress) : Char :=
  progress.rest.headD sourceEndChar

/-- The character after the next one. -/
def Progress.second (progress : Progress) : Char :=
  progress.rest.tail.headD sourceEndChar

/-- Whether three signs of a kind and the end of a word come next at the start of a line. -/
def Progress.isMarker (progress : Progress) (sign : Char) : Bool :=
  match progress.rest with
  | a :: b :: c :: rest =>
    progress.column = 0 && a = sign && b = sign && c = sign && endsWord (rest.headD sourceEndChar)
  | _ => false

/-- Whether a document starts or ends here. -/
def Progress.isDocumentMarker (progress : Progress) : Bool :=
  progress.isMarker '-' || progress.isMarker '.'

/-- The place after so many characters of a line. -/
def Progress.moved (progress : Progress) (count : Nat) : Progress :=
  { progress with
    rest := progress.rest.drop count
    index := progress.index + count
    column := progress.column + count }

/-- The character that comes next. -/
def look : Reading Char := do
  return (← get).next

/-- Pass one blank. -/
def passBlank : Reading Unit :=
  modify (·.moved 1)

/-- Pass so many characters that are no blanks. -/
def pass (count : Nat) : Reading Unit :=
  modify fun progress => { progress.moved count with leading := false }

/-- Pass the characters for which a test holds. -/
def passWhile (test : Char → Bool) : Reading String := do
  let taken := (← get).rest.takeWhile test
  if !taken.isEmpty then pass taken.length
  return String.ofList taken

/-- Pass one character if it comes next. -/
def passFlag (c : Char) : Reading Bool := do
  if (← look) = c then
    pass 1
    return true
  else return false

/-- Pass a line break. -/
def passBreak : Reading Unit :=
  modify fun progress =>
    let count := if progress.next = '\r' && progress.second = '\n' then 2 else 1
    { progress.moved count with column := 0, line := progress.line + 1, leading := true }

/-- Pass a comment, up to the end of its line. -/
def passComment : Reading Unit := do
  let _ ← passWhile fun c => !endsLine c

/-- Which blanks were passed. -/
structure Passed where
  tab : Bool
  space : Bool

/-- Pass blanks and perhaps a comment after them, up to the end of the line or to what comes
before. -/
def passLineBlanks : Reading Passed := do
  let blanks := (← get).rest.takeWhile isBlank
  modify (·.moved blanks.length)
  if (← look) = '#' then
    if blanks.isEmpty then failure
    passComment
  return { tab := blanks.contains '\t', space := blanks.contains ' ' }

/-- Allow a key after a line break outside brackets. -/
def allowKeyAfterBreak : Reading Unit :=
  modify fun progress =>
    if progress.depth = 0 then { progress with keyAllowed := true } else progress

/-- Pass blanks, line breaks and comments up to the next token. Within a block no tab may stand
where indentation is. -/
def passToToken : (fuel : Nat) → Reading Unit
  | 0 => pure ()
  | fuel + 1 => do
    let progress ← get
    let c := progress.next
    if c = '\t' && !progress.levels.isEmpty && progress.leading && progress.column < progress.indent
    then
      let _ ← passLineBlanks
      if !endsLine (← look) then failure
      passToToken fuel
    else if isBlank c then
      passBlank
      passToToken fuel
    else if isBreak c then
      passBreak
      allowKeyAfterBreak
      passToToken fuel
    else if c = '#' then
      passComment
      passToToken fuel
    else return ()

/-- Pass spaces, line breaks and comments after a sign; one of the former must be there. -/
def passSeparation : (fuel : Nat) → (found : Bool) → Reading Unit
  | 0, _ => failure
  | fuel + 1, found => do
    let c ← look
    if c = ' ' then
      passBlank
      passSeparation fuel true
    else if isBreak c then
      passBreak
      allowKeyAfterBreak
      passSeparation fuel true
    else if c = '#' then
      passComment
      passSeparation fuel found
    else if found then return ()
    else failure

/-! ## Tokens and blocks -/

/-- Add a token. -/
def emit (token : Token) : Reading Unit :=
  modify fun progress => { progress with tokens := progress.tokens.push token }

/-- Put a token in after so many others. -/
def emitAt (number : Nat) (token : Token) : Reading Unit :=
  modify fun progress =>
    { progress with tokens := progress.tokens.insertIdxIfInBounds number token }

/-- Allow a key here, or do not. -/
def allowKey (allowed : Bool) : Reading Unit :=
  modify fun progress => { progress with keyAllowed := allowed }

/-- Close the blocks whose column is to the right of a given one. -/
def closeBlocks (column : Int) (levels : List Level) (indent : Int) (tokens : Array Token) :
    List Level × Int × Array Token :=
  if indent ≤ column then (levels, indent, tokens)
  else
    match levels with
    | [] => ([], indent, tokens)
    | level :: rest =>
      closeBlocks column rest level.column
        (if level.isBlock then tokens.push .blockEnd else tokens)

/-- Close the blocks whose column is to the right of a given one; within brackets all stay open. -/
def closeTo (column : Int) : Reading Unit :=
  modify fun progress =>
    if 0 < progress.depth then progress
    else
      let (levels, indent, tokens) :=
        closeBlocks column progress.levels progress.indent progress.tokens
      { progress with levels, indent, tokens }

/-- Leave the innermost level if it is no block. -/
def Progress.withoutPlainLevel (progress : Progress) : Progress :=
  match progress.levels with
  | level :: rest =>
    if level.isBlock then progress else { progress with levels := rest, indent := level.column }
  | [] => progress

/-- Leave the levels within the innermost block. -/
def leavePlainLevels (levels : List Level) (indent : Int) : List Level × Int :=
  match levels with
  | [] => ([], indent)
  | level :: rest => if level.isBlock then (levels, indent) else leavePlainLevels rest level.column

/-- Leave the levels within the innermost block. -/
def leavePlain : Reading Unit :=
  modify fun progress =>
    let (levels, indent) := leavePlainLevels progress.levels progress.indent
    { progress with levels, indent }

/-- Open a block at a column, unless it is open; its token comes after so many others. -/
def openBlock (column : Nat) (number : Option Nat) (token : Token) : Reading Unit := do
  if 0 < (← get).depth then return ()
  modify fun progress =>
    if progress.indent ≤ (column : Int) then progress.withoutPlainLevel else progress
  if (← get).indent < (column : Int) then
    modify fun progress =>
      { progress with
        levels := { column := progress.indent, isBlock := true } :: progress.levels
        indent := column }
    match number with
    | some number => emitAt number token
    | none => emit token

/-- Ask what follows to stand at least one column to the right of the open block. -/
def openPlain : Reading Unit :=
  modify fun progress =>
    if progress.depth = 0 && progress.levels.head?.any Level.isBlock then
      { progress with
        levels := { column := progress.indent, isBlock := false } :: progress.levels
        indent := progress.indent + 1 }
    else progress

/-! ## Keys -/

/-- Note that a key may begin here. -/
def noteKey : Reading Unit :=
  modify fun progress =>
    if progress.keyAllowed then
      let required :=
        progress.depth = 0 && progress.indent = progress.column
          && progress.levels.head?.any Level.isBlock
      { progress with
        keys := {
            possible := true
            required
            token := progress.tokens.size
            index := progress.index
            line := progress.line
            column := progress.column } :: progress.keys.tail }
    else progress

/-- Give up the place where a key may have begun last; it is a fault if one had to be there. -/
def dropKey : Reading Unit := do
  let progress ← get
  match progress.keys with
  | place :: rest =>
    if place.possible && place.required then failure
    set { progress with keys := { place with possible := false } :: rest }
  | [] => return ()

/-- Keys without a sign are no longer than this. -/
def keyLimit : Nat := 1024

/-- Outside brackets, give up the places of keys that are on an earlier line or too far back; it is
a fault if a key had to be there. -/
def dropStaleKeys : Reading Unit := do
  let progress ← get
  let isStale (place : KeyPlace) : Bool :=
    place.possible && progress.depth = 0
      && (place.line < progress.line || place.index + keyLimit < progress.index)
  if progress.keys.any fun place => isStale place && place.required then failure
  set { progress with
    keys := progress.keys.map fun place =>
      if isStale place then { place with possible := false } else place }

end Yaml

end LiveTemplates
