import LiveTemplates.Language.Expression

set_option autoImplicit false

/-! # The items of a source

A source is read into items: texts, the blanks between two tags, tags, and blocks with the items
inside them. With each tag come the facts on its surroundings that decide which blanks are left
out later. Reading fails only on sources that follow no rule of the language; names that do not
match are left to the next stage. -/

namespace LiveTemplates

namespace Language

open Reader

/-- A tag and its surroundings. -/
structure Tag where
  position : Position
  /-- Blanks of the line directly before it. -/
  margin : String
  /-- Nothing but blanks stands before it on its line. -/
  opensLine : Bool
  /-- Nothing but blanks stands after it on its line. -/
  endsLine : Bool
  /-- Blanks before it are to be left out. -/
  trimBefore : Bool
  /-- Blanks after it are to be left out. -/
  trimAfter : Bool
  /-- The first of its literals that could not be read. -/
  unread : Option String
  deriving Inhabited

/-- Whether a tag has its line for itself. -/
def Tag.isStandalone (tag : Tag) : Bool :=
  tag.opensLine && tag.endsLine

/-- A space or a tab. -/
def isMargin (c : Char) : Bool :=
  c = ' ' || c = '\t'

/-- A line break. -/
def isLineBreak (c : Char) : Bool :=
  c = '\n' || c = '\r'

/-- Whether only blanks stand between a line break, or the start, and a place; the nearest character
comes first. -/
def atLineStart (before : List Char) : Bool :=
  (before.dropWhile isMargin).head?.all isLineBreak

/-- Whether only blanks stand between a place and a line break. The end of the source is none. -/
def atLineEnd (rest : List Char) : Bool :=
  (rest.dropWhile isMargin).head?.any isLineBreak

/-- The tag between two places. -/
def Tag.between (first last : Cursor) (trimBefore trimAfter : Bool)
    (unread : Option String) : Tag :=
  { position := ⟨first.line, first.column⟩
    margin := String.ofList (first.before.takeWhile isMargin).reverse
    opensLine := atLineStart first.before
    endsLine := atLineEnd last.rest
    trimBefore, trimAfter, unread }

/-- An item of a source. -/
inductive Item where
  | text (content : String)
  /-- Blanks between two tags. -/
  | gap (blanks : String)
  | comment (tag : Tag)
  | expression (tag : Tag) (escaped : Bool) (call : Call)
  | decoration (tag : Tag) (call : Call)
  | insertion (tag : Tag) (call : Call)
  /-- A block, its alternatives with a head, its last alternative, and the closing tag. -/
  | block (start : Tag) (head : Head) (body : List Item)
      (branches : List (Tag × Head × List Item)) (last : Option (Tag × List Item))
      (stop : Tag) (closing : String)
  /-- A block whose inside is text. -/
  | verbatim (start : Tag) (head : Head) (content : String) (stop : Tag) (closing : String)
  | decorationBlock (start : Tag) (head : Head) (body : List Item) (stop : Tag) (closing : String)
  | insertionBlock (start : Tag) (head : Head) (body : List Item) (stop : Tag) (closing : String)
  deriving Inhabited

/-! ## Tags -/

/-- A tag with an opening, a sign after it and a closing. -/
def readTag (opening closing : List Char) (sign : Reader Unit) (head : Reader Head) :
    Reader (Tag × Head) := do
  let first ← get
  exactly opening
  blanks
  let trimBefore ← flag '~'
  blanks
  sign
  blanks
  let head ← head
  blanks
  let trimAfter ← flag '~'
  blanks
  exactly closing
  return (.between first (← get) trimBefore trimAfter head.unread, head)

/-- Two opening braces. -/
def openTwo : List Char := ['\x7b', '\x7b']

/-- Two closing braces. -/
def closeTwo : List Char := ['\x7d', '\x7d']

/-- A tag between two braces. -/
def readTagTwo (sign : Reader Unit) (head : Reader Head) : Reader (Tag × Head) :=
  readTag openTwo closeTwo sign head

/-- A name alone as a head. -/
def nameHead (name : Reader String) : Reader Head := do
  return { call := ⟨.name (← name), [], []⟩ }

/-- A head that is nothing. -/
def emptyHead : Reader Head :=
  pure { call := ⟨.name "", [], []⟩ }

/-- The word or the sign of an alternative. -/
def elseSign : Reader Unit :=
  exactly ['e', 'l', 's', 'e'] <|> char '^'

/-- The tag of the last alternative. -/
def lastTag : Reader (Tag × Head) :=
  readTagTwo elseSign emptyHead

/-- The tag of an alternative with a head. -/
def branchTag (fuel : Nat) : Reader (Tag × Head) :=
  readTagTwo elseSign (readBlockHead fuel)

/-- A closing tag and the name in it. -/
def stopTag (name : Reader String) : Reader (Tag × String) := do
  let (tag, head) ← readTagTwo (char '/') (nameHead name)
  return (tag, (head.call.target.asName?).getD "")

/-- An escaped expression. -/
def readExpression (fuel : Nat) : Reader Item := do
  refuse lastTag
  refuse (branchTag fuel)
  let (tag, head) ← readTagTwo (pure ()) (readCall fuel)
  return .expression tag true head.call

/-- A call between further braces. -/
def bracedCall (fuel : Nat) : Reader Head := do
  let head ← readCall fuel
  blanks
  char '\x7d'
  return head

/-- An expression that is not escaped: with three braces, with a third pair inside the tildes, or
with `&`. -/
def readPlainExpression (fuel : Nat) : Reader Item := do
  let (tag, head) ←
    readTag ('\x7b' :: openTwo) ('\x7d' :: closeTwo) (pure ()) (readCall fuel)
      <|> readTagTwo (char '\x7b') (bracedCall fuel)
      <|> readTagTwo (char '&') (readBare fuel)
  return .expression tag false head.call

/-- Move over everything up to a given ending, and over the ending. -/
def throughEnding (ending : List Char) (fuel : Nat) : Reader Unit := do
  let _ ← many (do refuse (exactly ending); let _ ← satisfy fun _ => true) fuel []
  exactly ending

/-- A comment, up to two dashes and braces if it begins with two dashes. -/
def readComment (fuel : Nat) : Reader Item := do
  let first ← get
  (do
      exactly (openTwo ++ ['!'])
      blanks
      exactly ['-', '-']
      throughEnding ('-' :: '-' :: closeTwo) fuel)
    <|> (do
      exactly (openTwo ++ ['!'])
      throughEnding closeTwo fuel)
  return .comment (.between first (← get) false false none)

/-! ## Texts -/

/-- Text up to the next tag that `atStop` finds. A backslash before two braces makes them text and
is left out; of several backslashes before two braces one is left out. -/
def readText (atStop : List Char → Bool) : (fuel : Nat) → List Char → Cursor → List Char × Cursor
  | 0, before, cursor => (before, cursor)
  | fuel + 1, before, cursor =>
    if atStop cursor.rest then (before, cursor)
    else
      match cursor.rest with
      | [] => (before, cursor)
      | c :: rest =>
        let next := cursor.push c rest
        if c = '\\' then
          match Reader.exactly openTwo next with
          | some (_, after) =>
            match Reader.exactly openTwo after with
            | some (_, after) =>
              readText atStop fuel (openTwo ++ openTwo ++ before) after
            | none => readText atStop fuel (openTwo ++ before) after
          | none =>
            let run := rest.takeWhile (· = '\\')
            let after := next.skip (· = '\\')
            if !run.isEmpty && openTwo.isPrefixOf after.rest then
              readText atStop fuel (run ++ before) after
            else readText atStop fuel (c :: before) next
        else readText atStop fuel (c :: before) next

/-- Text up to two opening braces, with the blanks before it. -/
def textItem? (fuel : Nat) (gap : List Char) (cursor : Cursor) : Option (Item × Cursor) :=
  match readText openTwo.isPrefixOf fuel gap.reverse cursor with
  | (before, next) =>
    if next.offset = cursor.offset then none
    else some (.text (String.ofList before.reverse), next)

/-! ## Items -/

mutual

/-- Any item but text. -/
def readItem : (fuel : Nat) → Reader Item
  | 0 => failure
  | fuel + 1 =>
    readExpression fuel
      <|> readPlainExpression fuel
      <|> (do
        let (start, head) ← readTagTwo (char '#') (readBlockHead fuel)
        let body ← readItems fuel []
        let branches ← readBranches fuel []
        let last ← optionally (do
          blanks
          let (tag, _) ← lastTag
          return (tag, ← readItems fuel []))
        blanks
        let (stop, closing) ← stopTag identifier
        return .block start head body branches last stop closing)
      <|> (do
        let (start, head) ←
          readTag (openTwo ++ openTwo) (closeTwo ++ closeTwo) (pure ()) (readBlockHead fuel)
        blanks
        let content ← fun cursor =>
          let (before, next) := readText (openTwo ++ openTwo).isPrefixOf fuel [] cursor
          some (String.ofList before.reverse, next)
        let (stop, closing) ←
          readTag (openTwo ++ openTwo) (closeTwo ++ closeTwo) (char '/') (nameHead identifier)
        return .verbatim start head content stop ((closing.call.target.asName?).getD ""))
      <|> readComment fuel
      <|> (do
        let (tag, head) ← readTagTwo (char '*') (readBlockHead fuel)
        return .decoration tag head.call)
      <|> (do
        let (start, head) ←
          readTagTwo (do char '#'; blanks; char '*') (readBlockHead fuel)
        let body ← readItems fuel []
        blanks
        let (stop, closing) ← stopTag identifier
        return .decorationBlock start head body stop closing)
      <|> (do
        let (tag, head) ← readTagTwo (char '>') (readPartialHead fuel)
        return .insertion tag head.call)
      <|> (do
        let (start, head) ←
          readTagTwo (do char '#'; blanks; char '>') (readPartialHead fuel)
        let body ← readItems fuel []
        blanks
        let (stop, closing) ← stopTag (partialName fuel)
        return .insertionBlock start head body stop closing)

/-- Items as long as there are any; those before come first, last one first. The blanks after the
last one belong to it as a gap. -/
def readItems : (fuel : Nat) → List Item → Reader (List Item)
  | 0, before => pure before.reverse
  | fuel + 1, before => fun cursor =>
    let blank (c : Char) : Bool := c = ' ' || c = '\t' || c = '\n' || c = '\r'
    let gap := cursor.rest.takeWhile blank
    let next := cursor.skip blank
    match textItem? fuel gap next with
    | some (item, next) => readItems fuel (item :: before) next
    | none =>
      let before := if gap.isEmpty then before else .gap (String.ofList gap) :: before
      match readItem fuel next with
      | some (item, next) => readItems fuel (item :: before) next
      | none => some (before.reverse, next)

/-- Alternatives with a head; those before come first, last one first. -/
def readBranches : (fuel : Nat) → List (Tag × Head × List Item) →
    Reader (List (Tag × Head × List Item))
  | 0, before => pure before.reverse
  | fuel + 1, before => do
    let branch ← optionally (do
      blanks
      let (tag, head) ← branchTag fuel
      let body ← readItems fuel []
      return (tag, head, body))
    match branch with
    | some branch => readBranches fuel (branch :: before)
    | none => return before.reverse

end

/-- The items of a whole source, if it follows the rules. -/
def readSource? (source : String) : Option (List Item) :=
  let cursor := Cursor.start source
  match readItems (4 * cursor.rest.length + 16) [] cursor with
  | some (items, ⟨_, [], _, _, _⟩) => some items
  | _ => none

end Language

end LiveTemplates
