import LiveTemplates.Config.Yaml.Progress
import LiveTemplates.Json.Parser

set_option autoImplicit false

/-! # Scalars

Plain scalars, scalars in quotes, and literal and folded ones. In the first three kinds and in
folded ones a line break stands for a space, and further breaks after it for themselves. -/

namespace LiveTemplates

namespace Yaml

/-- So many line breaks. -/
def breaks (count : Nat) : String :=
  String.ofList (List.replicate count '\n')

/-- What a line break with so many breaks after it stands for. -/
def folded (further : Nat) : String :=
  if further = 0 then " " else breaks further

/-! ## Plain scalars -/

/-- Whether the next character may stand in a plain scalar. -/
def Progress.isPlain (progress : Progress) : Bool :=
  let inBrackets := 0 < progress.depth
  let c := progress.next
  if c = ':' && (endsWord progress.second || (inBrackets && isFlowSign progress.second)) then false
  else !(inBrackets && isFlowSign c)

/-- The rest of a word of a plain scalar. -/
def passWord : (fuel : Nat) → String → Reading String
  | 0, text => pure text
  | fuel + 1, text => do
    let progress ← get
    if endsWord progress.next || !progress.isPlain then return text
    pass 1
    passWord fuel (text.push progress.next)

/-- Pass the blanks and the line breaks between two words of a plain scalar. Gives what stands for
them, given what stands for those before. -/
def passPlainGap (indent : Int) : (fuel : Nat) → String → Option Nat →
    Reading (String × Option Nat)
  | 0, spaces, further => pure (spaces, further)
  | fuel + 1, spaces, further => do
    let progress ← get
    let c := progress.next
    if isBlank c then
      if !progress.leading then
        passBlank
        passPlainGap indent fuel (spaces.push c) further
      else if progress.column < indent && c = '\t' then
        let _ ← passLineBlanks
        if !endsLine (← look) then failure
        passPlainGap indent fuel spaces further
      else
        passBlank
        passPlainGap indent fuel spaces further
    else if isBreak c then
      passBreak
      if progress.leading then passPlainGap indent fuel spaces (further.map (· + 1))
      else passPlainGap indent fuel "" (some 0)
    else return (spaces, further)

/-- The words of a plain scalar after a text and what stands before the next word. -/
def passPlain (indent : Int) : (fuel : Nat) → String → String → Option Nat → Reading String
  | 0, text, _, _ => pure text
  | fuel + 1, text, spaces, further => do
    let progress ← get
    let c := progress.next
    if progress.isDocumentMarker || c = '#' then return text
    if 0 < progress.depth && c = '-' && isFlowSign progress.second then failure
    let (text, spaces, further) ←
      if !endsWord c && progress.isPlain then do
        let before := if progress.leading then (further.map folded).getD "" else spaces
        pass 1
        pure (← passWord fuel ((text ++ before).push c), "", none)
      else pure (text, spaces, further)
    let next ← look
    if !isBlank next && !isBreak next then return text
    let (spaces, further) ← passPlainGap indent fuel spaces further
    let progress ← get
    if progress.depth = 0 && progress.column < indent then return text
    passPlain indent fuel text spaces further

/-- A plain scalar. -/
def plainScalar : Reading Token := do
  leavePlain
  let start ← get
  let indent := start.indent + 1
  if 0 < start.depth && start.column < indent then failure
  let text ← passPlain indent (start.rest.length + 1) "" "" none
  if (← get).leading then allowKey true
  return .scalar true text

/-! ## Scalars in quotes -/

/-- The character of so many hexadecimal digits. -/
def hexChar (count : Nat) : Reading String := do
  let digits := (← get).rest.take count
  if digits.length ≠ count || digits.any fun c => (Json.hexDigit? c).isNone then failure
  let n := digits.foldl (fun n c => 16 * n + (Json.hexDigit? c).getD 0) 0
  if n.isValidChar then
    pass count
    return String.singleton (Char.ofNat n)
  else failure

/-- What a backslash and the character after it stand for, between double quotes. -/
def escape : Reading String := do
  let c := (← get).second
  pass 2
  match c with
  | '0' => return "\x00"
  | 'a' => return "\x07"
  | 'b' => return "\x08"
  | 't' | '\t' => return "\t"
  | 'n' => return "\n"
  | 'v' => return "\x0b"
  | 'f' => return "\x0c"
  | 'r' => return "\r"
  | 'e' => return "\x1b"
  | ' ' => return " "
  | '"' => return "\""
  | '/' => return "/"
  | '\\' => return "\\"
  | 'N' => return String.singleton (Char.ofNat 0x85)
  | '_' => return String.singleton (Char.ofNat 0xa0)
  | 'L' => return String.singleton (Char.ofNat 0x2028)
  | 'P' => return String.singleton (Char.ofNat 0x2029)
  | 'x' => hexChar 2
  | 'u' => hexChar 4
  | 'U' => hexChar 8
  | _ => failure

/-- The rest of a word between quotes, and whether a backslash ends it together with its line. -/
def passQuotedWord (quote : Char) : (fuel : Nat) → String → Reading (String × Bool)
  | 0, text => pure (text, false)
  | fuel + 1, text => do
    let progress ← get
    let c := progress.next
    if endsWord c then return (text, false)
    if c = quote then
      if quote = '\'' && progress.second = quote then
        pass 2
        passQuotedWord quote fuel (text.push quote)
      else return (text, false)
    else if quote = '"' && c = '\\' then
      if isBreak progress.second then
        pass 1
        passBreak
        return (text, true)
      else
        let escaped ← escape
        passQuotedWord quote fuel (text ++ escaped)
    else
      pass 1
      passQuotedWord quote fuel (text.push c)

/-- What was passed between two words in quotes. -/
structure QuotedGap where
  spaces : String := ""
  /-- A line was ended. -/
  ended : Bool := false
  /-- It was ended by a line break, and not by a backslash. -/
  plainly : Bool := false
  /-- How many further line breaks there were. -/
  further : Nat := 0

/-- What the gap between two words in quotes stands for. -/
def QuotedGap.text (gap : QuotedGap) : String :=
  if !gap.ended then gap.spaces
  else if gap.plainly then folded gap.further
  else breaks gap.further

/-- Pass the blanks and the line breaks between two words in quotes. -/
def passQuotedGap : (fuel : Nat) → QuotedGap → Reading QuotedGap
  | 0, gap => pure gap
  | fuel + 1, gap => do
    let progress ← get
    let c := progress.next
    if isBlank c then
      if gap.ended then
        if c = '\t' && progress.column < progress.indent then failure
        passBlank
        passQuotedGap fuel gap
      else
        passBlank
        passQuotedGap fuel { gap with spaces := gap.spaces.push c }
    else if isBreak c then
      passBreak
      passQuotedGap fuel
        (if gap.ended then { gap with further := gap.further + 1 }
        else { gap with spaces := "", ended := true, plainly := true })
    else return gap

/-- The words between quotes after a text, and the closing quote. -/
def passQuoted (quote : Char) : (fuel : Nat) → String → Reading String
  | 0, _ => failure
  | fuel + 1, text => do
    let progress ← get
    if progress.isDocumentMarker || progress.rest.isEmpty || progress.column < progress.indent then
      failure
    let (text, ended) ← passQuotedWord quote fuel text
    if (← look) = quote then
      pass 1
      return text
    let gap ← passQuotedGap fuel { ended }
    passQuoted quote fuel (text ++ gap.text)

/-- A scalar in quotes. After it comes the end of the line, a colon, or a sign of the brackets
around it. -/
def quotedScalar (quote : Char) : Reading Token := do
  let start ← get
  pass 1
  let text ← passQuoted quote (start.rest.length + 1) ""
  let _ ← passLineBlanks
  let progress ← get
  let c := progress.next
  let inBrackets := 0 < progress.depth
  let fits :=
    endsLine c
      || (inBrackets && [',', '\x7d', ']'].contains c)
      || (c = ':' && (inBrackets || start.line = progress.line))
  if fits then return .scalar false text else failure

/-! ## Literal and folded scalars -/

/-- What becomes of the line breaks at the end of a scalar. -/
inductive Chomping where
  /-- One is kept. -/
  | clip
  | strip
  | keep
  deriving DecidableEq

/-- The sign of a chomping, if there is one. -/
def chompingSign : Reading (Option Chomping) := do
  if ← passFlag '+' then return some .keep
  else if ← passFlag '-' then return some .strip
  else return none

/-- A number of columns from 1 to 9, if there is one. -/
def columnSign : Reading (Option Nat) := do
  let c ← look
  if c.isDigit then
    if c = '0' then failure
    pass 1
    return some (c.toNat - '0'.toNat)
  else return none

/-- The signs after the sign of a literal or folded scalar, in either order. -/
def scalarSigns : Reading (Chomping × Option Nat) := do
  match ← chompingSign with
  | some chomping => return (chomping, ← columnSign)
  | none =>
    let columns ← columnSign
    let chomping ← if columns.isSome then chompingSign else pure none
    return (chomping.getD .clip, columns)

/-- Pass empty lines, and as much as a column of the line after them. Gives the number of lines. -/
def passIndentation (column : Nat) : (fuel : Nat) → Nat → Reading Nat
  | 0, count => pure count
  | fuel + 1, count => do
    let progress ← get
    if progress.next = ' ' && progress.column < column then
      passBlank
      passIndentation column fuel count
    else if isBreak progress.next then
      passBreak
      passIndentation column fuel (count + 1)
    else return count

/-- Pass lines of spaces, and the spaces of the line after them. Gives the number of lines and the
greatest number of spaces. -/
def passFirstIndentation : (fuel : Nat) → Nat → Nat → Reading (Nat × Nat)
  | 0, count, most => pure (count, most)
  | fuel + 1, count, most => do
    let progress ← get
    if progress.next = ' ' then
      passBlank
      passFirstIndentation fuel count most
    else
      let most := max most progress.column
      if isBreak progress.next then
        passBreak
        passFirstIndentation fuel (count + 1) most
      else return (count, most)

/-- The lines of a literal or folded scalar so far. -/
structure ScalarLines where
  text : String := ""
  /-- A line was ended after the text. -/
  ended : Bool := false
  /-- The last line begins with a blank. -/
  blank : Bool := false
  /-- The number of empty lines after the text. -/
  further : Nat := 0

/-- Pass the lines of a literal or folded scalar that begin at a column. -/
def passScalarLines (folds : Bool) (column : Nat) : (fuel : Nat) → ScalarLines →
    Reading ScalarLines
  | 0, lines => pure lines
  | fuel + 1, lines => do
    let progress ← get
    if progress.column ≠ column || progress.rest.isEmpty
        || (column = 0 && progress.isMarker '.') then
      return lines
    let blank := isBlank progress.next
    let between :=
      if folds && lines.ended && !lines.blank && !blank then folded lines.further
      else (if lines.ended then "\n" else "") ++ breaks lines.further
    let line ← passWhile fun c => !isBreak c
    let lines := { text := lines.text ++ between ++ line, blank : ScalarLines }
    if (← get).rest.isEmpty then return lines
    passBreak
    let further ← passIndentation column fuel 0
    passScalarLines folds column fuel { lines with ended := true, further }

/-- A literal or a folded scalar. Its column is told by a sign or by its first line. -/
def longScalar (folds : Bool) : Reading Token := do
  let start ← get
  let fuel := start.rest.length + 1
  pass 1
  leavePlain
  let (chomping, columns) ← scalarSigns
  let _ ← passLineBlanks
  if !endsLine (← look) then failure
  let ended := isBreak (← look)
  if ended then passBreak
  if (← look) = '\t' then failure
  let indent := (← get).indent
  let (column, further) ←
    match columns with
    | some columns => do
      let column := (max indent 0).toNat + columns
      pure (column, ← passIndentation column fuel 0)
    | none => do
      let (further, most) ← passFirstIndentation fuel 0 0
      pure (max most (indent + 1).toNat, further)
  let progress ← get
  if progress.rest.isEmpty then
    let text :=
      match chomping with
      | .strip => ""
      | .clip => if ended then "\n" else ""
      | .keep => if !ended then "" else if further = 0 then "\n" else breaks further
    return .scalar false text
  if progress.column < column && indent < progress.column then failure
  let lines ← passScalarLines folds column fuel { further }
  let last ← get
  let tail :=
    match chomping with
    | .strip => ""
    | _ =>
      (if lines.ended then "\n" else "")
        ++ (if last.rest.isEmpty && max column 1 ≤ last.column then "\n" else "")
        ++ (if chomping = .keep then breaks lines.further else "")
  return .scalar false (lines.text ++ tail)

end Yaml

end LiveTemplates
