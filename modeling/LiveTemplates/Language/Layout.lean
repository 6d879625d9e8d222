import LiveTemplates.Language.Item
import LiveTemplates.Text.Blank

set_option autoImplicit false

/-! # From items to a template

Blanks around tags are left out by two rules. A tilde takes all blanks on its side up to the next
text. A tag of a block, a comment or a partial that has its line for itself takes the line away:
the blanks before it and the rest of its line with the line break; a partial keeps the blanks
before it as the indentation of its text. Here also the names of opening and closing tags are
compared. -/

namespace LiveTemplates

namespace Language

/-- What is left to be done to the next text. -/
structure Layout where
  /-- The last tag takes the blanks after it. -/
  omitting : Bool := false
  /-- The last tag takes the rest of its line. -/
  lineTaken : Bool := false
  deriving Inhabited

/-- Elements, the last one first. -/
abbrev Reversed := List (Option Position × Element)

/-- Drop the blanks of a line and one line break. -/
def dropLine (text : String) : String :=
  match text.toList.dropWhile isMargin with
  | '\r' :: '\n' :: rest => String.ofList rest
  | '\n' :: rest => String.ofList rest
  | rest => String.ofList rest

namespace Layout

/-- A text as it remains after the tag before it. -/
def cut (layout : Layout) (text : String) : String :=
  if layout.omitting then Text.trimStart text
  else if layout.lineTaken then dropLine text
  else text

/-- Change the text that comes last. -/
def changeLast (change : String → String) : Reversed → Reversed
  | (position, .text content) :: rest => (position, .text (change content)) :: rest
  | elements => elements

/-- The elements and the layout after a tag. -/
def passTag (tag : Tag) (layout : Layout) (elements : Reversed) : Layout × Reversed :=
  ({ layout with omitting := tag.trimAfter },
    if tag.trimBefore then changeLast Text.trimEnd elements else elements)

/-- The elements and the layout after a tag that takes its line if it stands alone. -/
def takeLine (tag : Tag) (layout : Layout) (elements : Reversed) : Layout × Reversed :=
  ({ layout with lineTaken := tag.isStandalone },
    if tag.isStandalone then
      changeLast (fun text => String.ofList (Text.dropWhileEnd isMargin text.toList)) elements
    else elements)

/-- The elements and the layout after a tag of a block. -/
def passBlockTag (tag : Tag) (layout : Layout) (elements : Reversed) : Layout × Reversed :=
  let (layout, elements) := passTag tag layout elements
  takeLine tag layout elements

end Layout

/-- The text that a mismatch gives for a name. -/
def shownName (target : Parameter) : String :=
  (target.asName?).getD "Subexpression"

/-- Refuse a closing name that is not the opening one. -/
def checkClosing (word : String) (opened : Parameter) (closing : String) (stop : Tag) :
    Except SyntaxFault Unit :=
  if opened.asName? = some closing then .ok ()
  else .error (.mismatched word (shownName opened) closing stop.position)

/-- Refuse a tag with a literal that cannot be read. -/
def checkLiterals (tag : Tag) : Except SyntaxFault Unit :=
  match tag.unread with
  | none => .ok ()
  | some text => .error (.unreadable text)

/-- Chain the alternatives of a block: each is a block in the alternative of the one before. -/
def chain (last : Option Template) : List (Head × Template) → Option Template
  | [] => last
  | (head, body) :: rest => some [(none, .block head.call head.bindings body (chain last rest))]

open Layout in
mutual

/-- The elements of an item, put before those that are there. -/
def placeItem (layout : Layout) (elements : Reversed) :
    Item → Except SyntaxFault (Layout × Reversed)
  | .text content =>
    .ok ({ layout with lineTaken := false }, (none, .text (layout.cut content)) :: elements)
  | .gap blanks =>
    if layout.omitting then .ok (layout, elements)
    else .ok ({ layout with lineTaken := false }, (none, .text (layout.cut blanks)) :: elements)
  | .comment tag =>
    let (layout, elements) := takeLine tag layout elements
    .ok (layout, (some tag.position, .comment) :: elements)
  | .expression tag escaped call => do
    checkLiterals tag
    let (layout, elements) := passTag tag layout elements
    return (layout, (some tag.position, .expression escaped call) :: elements)
  | .decoration tag call => do
    checkLiterals tag
    let (layout, elements) := passTag tag layout elements
    return ({ layout with lineTaken := tag.isStandalone },
      (some tag.position, .decoration call none) :: elements)
  | .insertion tag call => do
    checkLiterals tag
    let (layout, elements) := passTag tag layout elements
    let indent := if tag.trimBefore || tag.margin.isEmpty then none else some tag.margin
    return ({ layout with lineTaken := tag.isStandalone },
      (some tag.position, .insertion call indent none) :: elements)
  | .block start head body branches last stop closing => do
    checkLiterals start
    let (layout, elements) := passBlockTag start layout elements
    let (layout, inner) ← placeItems layout [] body
    let (layout, closed, inner) ← placeBranches layout inner branches
    let (layout, inner, final) ← placeLast layout inner last
    let (layout, final, inner) :=
      match final with
      | some elements =>
        let (layout, elements) := passBlockTag stop layout elements
        (layout, some elements.reverse, inner)
      | none =>
        let (layout, inner) := passBlockTag stop layout inner
        (layout, none, inner)
    checkClosing "helper" head.call.target closing stop
    let bodies := (closed ++ [inner]).map List.reverse
    let heads := branches.map fun (_, head, _) => head
    return (layout, (some start.position,
      .block head.call head.bindings (bodies.headD []) (chain final (heads.zip bodies.tail)))
        :: elements)
  | .verbatim start head content stop closing => do
    checkLiterals start
    let (layout, elements) := passBlockTag start layout elements
    let (layout, inner) := passBlockTag stop layout [(none, .text (layout.cut content))]
    checkClosing "helper" head.call.target closing stop
    return (layout, (some start.position,
      .block head.call head.bindings inner.reverse none) :: elements)
  | .decorationBlock start head body stop closing => do
    checkLiterals start
    let (layout, elements) := passBlockTag start layout elements
    let (layout, inner) ← placeItems layout [] body
    let (layout, inner) := passBlockTag stop layout inner
    checkClosing "decorator" head.call.target closing stop
    return (layout, (some start.position, .decoration head.call (some inner.reverse)) :: elements)
  | .insertionBlock start head body stop closing => do
    checkLiterals start
    let (layout, elements) := passBlockTag start layout elements
    let (layout, inner) ← placeItems layout [] body
    let (layout, inner) := passBlockTag stop layout inner
    checkClosing "decorator" head.call.target closing stop
    return (layout,
      (some start.position, .insertion head.call none (some inner.reverse)) :: elements)

/-- The elements of items, put before those that are there. -/
def placeItems (layout : Layout) (elements : Reversed) :
    List Item → Except SyntaxFault (Layout × Reversed)
  | [] => .ok (layout, elements)
  | item :: rest =>
    match placeItem layout elements item with
    | .error fault => .error fault
    | .ok (layout, elements) => placeItems layout elements rest

/-- The bodies of alternatives after a body that is still open: those that are closed now, and the
one that is open then. -/
def placeBranches (layout : Layout) (inner : Reversed) :
    List (Tag × Head × List Item) → Except SyntaxFault (Layout × List Reversed × Reversed)
  | [] => .ok (layout, [], inner)
  | (tag, _, items) :: rest => do
    checkLiterals tag
    let (layout, inner) := passBlockTag tag layout inner
    let (layout, next) ← placeItems layout [] items
    let (layout, closed, last) ← placeBranches layout next rest
    return (layout, inner :: closed, last)

/-- The body of the last alternative after one that is still open. -/
def placeLast (layout : Layout) (inner : Reversed) :
    Option (Tag × List Item) → Except SyntaxFault (Layout × Reversed × Option Reversed)
  | none => .ok (layout, inner, none)
  | some (tag, items) => do
    let (layout, inner) := passBlockTag tag layout inner
    let (layout, last) ← placeItems layout [] items
    return (layout, inner, some last)

end

/-- The template of a source. -/
def readTemplate (source : String) : Except SyntaxFault Template :=
  match readSource? source with
  | none => .error .malformed
  | some items => (placeItems {} [] items).map fun (_, elements) => elements.reverse

end Language

end LiveTemplates
