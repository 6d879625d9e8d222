import LiveTemplates.Config.Yaml.Progress
import LiveTemplates.Json.Parser

set_option autoImplicit false

/-! # Anchors, tags and directives

An anchor names a node and an alias stands for a node that was named. A tag tells the type of a
node by a handle and a suffix, or by a whole address in angle brackets. Directives stand before a
document. -/

namespace LiveTemplates

namespace Yaml

/-- The name after the sign of an anchor or an alias. -/
def anchorName : Reading String := do
  pass 1
  let name ← passWhile isAnchorChar
  if name.isEmpty then failure
  return name

/-! ## Tags -/

/-- A percent sign and two hexadecimal digits as a byte. -/
def escapedByte : Reading Nat := do
  match (← get).rest with
  | '%' :: a :: b :: _ =>
    match Json.hexDigit? a, Json.hexDigit? b with
    | some high, some low =>
      pass 3
      return 16 * high + low
    | _, _ => failure
  | _ => failure

/-- Further escaped bytes of a character, joined to those before. -/
def escapedRest : Nat → Nat → Reading Nat
  | 0, n => pure n
  | count + 1, n => do
    let byte ← escapedByte
    if byte / 64 ≠ 2 then failure
    escapedRest count (256 * n + byte)

/-- A character that is escaped byte by byte. The bytes in a row are its number. -/
def escapedChar : Reading Char := do
  let first ← escapedByte
  let n ←
    if first < 0x80 then pure first
    else if first / 32 = 6 then escapedRest 1 first
    else if first / 16 = 14 then escapedRest 2 first
    else if first / 8 = 30 then escapedRest 3 first
    else failure
  if n.isValidChar then return Char.ofNat n else failure

/-- The characters of an address or a tag, added to a text. -/
def passAddress (test : Char → Bool) : (fuel : Nat) → String → Reading String
  | 0, text => pure text
  | fuel + 1, text => do
    let c ← look
    if !test c then return text
    if c = '%' then
      let escaped ← escapedChar
      passAddress test fuel (text.push escaped)
    else
      pass 1
      passAddress test fuel (text.push c)

/-- A handle: an exclamation mark, perhaps with a name and another one after it. -/
def tagHandle : Reading String := do
  if !(← passFlag '!') then failure
  let name ← passWhile isHandleChar
  let closed ← passFlag '!'
  return "!" ++ name ++ (if closed then "!" else "")

/-- Whether a handle is more than the sign of a tag: it ends as it begins. -/
def isHandle (text : String) : Bool :=
  2 ≤ text.length && text.endsWith "!"

/-- A tag. One without a handle of its own has the handle `!`, and the sign of a tag alone has
none. -/
def readTag : Reading Token := do
  let progress ← get
  let fuel := progress.rest.length
  let token ←
    if progress.second = '<' then do
      pass 2
      let address ← passAddress isAddressChar fuel ""
      if !(← passFlag '>') then failure
      pure (Token.tag "" address)
    else do
      let handle ← tagHandle
      if isHandle handle then
        let suffix ← passAddress isTagChar fuel ""
        if suffix.isEmpty then failure
        pure (Token.tag handle suffix)
      else
        let suffix ← passAddress isTagChar fuel (String.ofList (handle.toList.drop 1))
        pure (if suffix.isEmpty then Token.tag "" "!" else Token.tag "!" suffix)
  let progress ← get
  if endsWord progress.next || (0 < progress.depth && isFlowSign progress.next) then return token
  else failure

/-! ## Directives -/

/-- A number of a version: at most nine digits. -/
def versionNumber : Reading Unit := do
  let digits ← passWhile Char.isDigit
  if digits.isEmpty || 9 < digits.length then failure

/-- The meaning of a handle. -/
def tagMeaning : Reading String := do
  let progress ← get
  let fuel := progress.rest.length
  if ← passFlag '!' then passAddress isAddressChar fuel "!"
  else if isTagChar progress.next then passAddress isAddressChar fuel ""
  else failure

/-- Pass blanks. -/
def passBlanks : Reading Unit :=
  modify fun progress => progress.moved (progress.rest.takeWhile isBlank).length

/-- A directive and the end of its line. One with an unknown name has no effect of its own. -/
def readDirective : Reading Token := do
  pass 1
  let name ← passWhile isHandleChar
  if name.isEmpty || !endsWord (← look) then failure
  let token ←
    match name with
    | "YAML" => do
      passBlanks
      versionNumber
      if !(← passFlag '.') then failure
      versionNumber
      pure Token.version
    | "TAG" => do
      passBlanks
      let handle ← tagHandle
      if !handle.endsWith "!" then failure
      passBlanks
      let meaning ← tagMeaning
      if !endsWord (← look) then failure
      pure (Token.tagDirective handle meaning)
    | _ => do
      passComment
      pure (Token.tagDirective "" "")
  let _ ← passLineBlanks
  let next ← look
  if !endsLine next then failure
  if isBreak next then passBreak
  return token

end Yaml

end LiveTemplates
