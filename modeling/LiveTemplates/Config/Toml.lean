import LiveTemplates.Assoc
import LiveTemplates.Config.Setting
import LiveTemplates.Decimal.Reading
import LiveTemplates.Json.Parser
import LiveTemplates.Text.Cursor

set_option autoImplicit false

/-! # Settings in TOML files

Keys and values line by line, with headers that open tables. Values are texts in four kinds of
quotes, whole numbers, numbers, truth values, dates and times (which are taken as texts), arrays
and inline tables. A key must not be given twice, and a table is closed once its part of the file
has ended. A table whose first key is a certain word is a date or a time as well. Neither values nor
keys may be nested too deeply. -/

namespace LiveTemplates

namespace Toml

open Reader

/-! ## Blanks and comments -/

/-- A space or a tab. -/
def isSpace (c : Char) : Bool :=
  c = ' ' || c = '\t'

/-- Whether a character may stand in a line. -/
def isPlain (c : Char) : Bool :=
  c = '\t' || (0x20 ≤ c.toNat && c.toNat ≠ 0x7f)

/-- Blanks within a line. -/
def spaces : Reader Unit := do
  let _ ← takeWhile isSpace

/-- The end of a line. -/
def lineBreak : Reader Unit :=
  char '\n' <|> exactly ['\r', '\n']

/-- A comment, up to the end of its line. -/
def comment : Reader Unit := do
  char '#'
  let _ ← takeWhile isPlain

/-- Blanks, line ends and comments. -/
def gap (fuel : Nat) : Reader Unit := do
  let _ ← many ((do let _ ← satisfy isSpace) <|> lineBreak <|> comment) fuel []

/-- Nothing but blanks and perhaps a comment up to the end of the line. -/
def lineEnd : Reader Unit := do
  spaces
  let _ ← optionally comment
  fun cursor => if cursor.rest.isEmpty then some ((), cursor) else lineBreak cursor

/-! ## Texts -/

/-- So many hexadecimal digits as a number. -/
def hexNumber : Nat → Nat → Reader Nat
  | 0, n => pure n
  | count + 1, n => do
    let c ← satisfy fun c => (Json.hexDigit? c).isSome
    hexNumber count (16 * n + (Json.hexDigit? c).getD 0)

/-- What follows a backslash in a basic text. -/
def escape : Reader Char := do
  match ← satisfy fun c => "btnfr\"\\uU".toList.contains c with
  | 'u' => scalar (← hexNumber 4 0)
  | 'U' => scalar (← hexNumber 8 0)
  | 'b' => return '\x08'
  | 't' => return '\t'
  | 'n' => return '\n'
  | 'f' => return '\x0c'
  | 'r' => return '\r'
  | c => return c
where
  /-- The character of a code point, if there is one. -/
  scalar (n : Nat) : Reader Char :=
    if n.isValidChar then pure (Char.ofNat n) else failure

/-- A text in double quotes on one line. -/
def basicText (fuel : Nat) : Reader String := do
  char '"'
  let cs ← many ((do char '\\'; escape) <|> satisfy fun c => isPlain c && c ≠ '"' && c ≠ '\\')
    fuel []
  char '"'
  return String.ofList cs

/-- A text in single quotes on one line. -/
def literalText : Reader String := do
  char '\''
  let text ← takeWhile fun c => isPlain c && c ≠ '\''
  char '\''
  return text

/-- Up to two quotes that do not end a text of several lines, as they stand before its end. -/
def quotesWithin (quote : Char) : Reader (List Char) := do
  let two ← ahead (exactly [quote, quote, quote, quote, quote])
  let one ← ahead (exactly [quote, quote, quote, quote])
  let ending := [quote, quote, quote]
  if two then
    exactly [quote, quote]
    exactly ending
    return [quote, quote]
  else if one then
    char quote
    exactly ending
    return [quote]
  else
    exactly ending
    return []

/-- Up to two quotes that are followed by something else. -/
def looseQuotes (quote : Char) : Reader (List Char) := do
  refuse (exactly [quote, quote, quote])
  char quote
  return [quote]

/-- A text of several lines: its opening, then its pieces, then its closing. -/
def longText (quote : Char) (fuel : Nat) (piece : Reader (List Char)) : Reader String := do
  exactly [quote, quote, quote]
  let _ ← optionally lineBreak
  let pieces ← many (piece <|> looseQuotes quote) fuel []
  let last ← quotesWithin quote
  return String.ofList (pieces.flatten ++ last)

/-- A line end inside a text, in whichever way it is written. -/
def innerBreak : Reader (List Char) := do
  lineBreak
  return ['\n']

/-- A text of several lines in double quotes. -/
def longBasicText (fuel : Nat) : Reader String :=
  longText '"' fuel
    ((do
        char '\\'
        let _ ← takeWhile isSpace
        lineBreak
        let _ ← many ((do let _ ← satisfy isSpace) <|> lineBreak) fuel []
        return [])
      <|> (do char '\\'; return [← escape])
      <|> innerBreak
      <|> (do return [← satisfy fun c => isPlain c && c ≠ '"' && c ≠ '\\']))

/-- A text of several lines in single quotes. -/
def longLiteralText (fuel : Nat) : Reader String :=
  longText '\'' fuel
    (innerBreak <|> (do return [← satisfy fun c => isPlain c && c ≠ '\'']))

/-- A text in any kind of quotes. -/
def anyText (fuel : Nat) : Reader String :=
  longBasicText fuel <|> longLiteralText fuel
    <|> (do refuse (exactly ['"', '"', '"']); basicText fuel)
    <|> (do refuse (exactly ['\'', '\'', '\'']); literalText)

/-! ## Keys -/

/-- A key without dots. -/
def simpleKey (fuel : Nat) : Reader String :=
  takeWhile1 (fun c => c.isAlphanum || c = '_' || c = '-')
    <|> (do refuse (exactly ['"', '"', '"']); basicText fuel)
    <|> (do refuse (exactly ['\'', '\'', '\'']); literalText)

/-- Keys have fewer parts than this, and values are nested in fewer arrays and inline tables. -/
def depthLimit : Nat := 80

/-- A key, with dots between its parts. -/
def dottedKey (fuel : Nat) : Reader (List String) := do
  let first ← simpleKey fuel
  let rest ← many (do spaces; char '.'; spaces; simpleKey fuel) fuel []
  if rest.length + 1 < depthLimit then return first :: rest else failure

/-! ## Numbers, dates and times -/

/-- Digits with single underscores between them, without the underscores. -/
def bareDigits? (isDigit : Char → Bool) (cs : List Char) : Option (List Char) :=
  let groups := Text.splitAtChars (· = '_') cs
  if groups.any fun group => group.isEmpty || group.any fun c => !isDigit c then none
  else some groups.flatten

/-- The number of digits in a base. -/
def baseValue (base : Nat) (cs : List Char) : Nat :=
  cs.foldl (fun n c => base * n + (Json.hexDigit? c).getD 0) 0

/-- A whole number if it has 64 bits. -/
def wholeOf? (i : Int) : Option Scalar :=
  (Number.whole i).asInt?.map .whole

/-- Digits that do not begin with a zero, unless it is the only one. -/
def decimalDigits? (cs : List Char) : Option (List Char) :=
  match bareDigits? Char.isDigit cs with
  | some ('0' :: _ :: _) => none
  | digits => digits

/-- A whole number, without its sign if it has one. -/
def readWhole? (negative signed : Bool) (cs : List Char) : Option Scalar :=
  let based (base : Nat) (isDigit : Char → Bool) (cs : List Char) : Option Scalar :=
    if signed then none
    else (bareDigits? isDigit cs).bind fun digits => wholeOf? (baseValue base digits)
  match cs with
  | '0' :: 'x' :: rest => based 16 (fun c => (Json.hexDigit? c).isSome) rest
  | '0' :: 'o' :: rest => based 8 (fun c => '0' ≤ c && c ≤ '7') rest
  | '0' :: 'b' :: rest => based 2 (fun c => c = '0' || c = '1') rest
  | cs =>
    (decimalDigits? cs).bind fun digits =>
      let n : Int := baseValue 10 digits
      wholeOf? (if negative then -n else n)

/-- A number with a point or an exponent, without its sign. One that is too great is refused, while
one that is too small a negative number becomes infinite. -/
def readReal? (negative : Bool) (cs : List Char) : Option Scalar := do
  let isMark (c : Char) : Bool := c = 'e' || c = 'E'
  let mantissa := cs.takeWhile fun c => !isMark c
  let tail := cs.dropWhile fun c => !isMark c
  let whole ← decimalDigits? (mantissa.takeWhile (· ≠ '.'))
  let places ←
    match mantissa.dropWhile (· ≠ '.') with
    | [] => some []
    | _ :: places => bareDigits? Char.isDigit places
  let exponent ←
    match tail with
    | [] => some 0
    | _ :: '-' :: rest => (bareDigits? Char.isDigit rest).bind fun ds => Double.readExponent? ('-' :: ds)
    | _ :: '+' :: rest => (bareDigits? Char.isDigit rest).bind Double.readExponent?
    | _ :: rest => (bareDigits? Char.isDigit rest).bind Double.readExponent?
  let value := Double.ofDecimal negative (Double.digitsValue (whole ++ places))
    (exponent - places.length)
  if (mantissa.contains '.' || !tail.isEmpty) && value ≠ .infinity then some (.real value)
  else none

/-- Exactly so many digits whose number is in a range. -/
def field (count low high : Nat) : Reader (List Char) := do
  let digits ← many (satisfy Char.isDigit) count []
  let n := baseValue 10 digits
  if digits.length = count ∧ low ≤ n ∧ n ≤ high then return digits else failure

/-- The days of a month. -/
def daysIn (year month : Nat) : Nat :=
  if month = 2 then
    if year % 4 = 0 ∧ (year % 100 ≠ 0 ∨ year % 400 = 0) then 29 else 28
  else if [4, 6, 9, 11].contains month then 30
  else 31

/-- A date. -/
def date : Reader (List Char) := do
  let year ← field 4 0 9999
  char '-'
  let month ← field 2 1 12
  char '-'
  let day ← field 2 1 (daysIn (baseValue 10 year) (baseValue 10 month))
  return year ++ '-' :: month ++ '-' :: day

/-- A time of the day, with the greatest hour that it may have. -/
def time (lastHour : Nat) : Reader (List Char) := do
  let hour ← field 2 0 lastHour
  char ':'
  let minute ← field 2 0 59
  char ':'
  let second ← field 2 0 60
  let places ← optionally (do char '.'; takeWhile1 Char.isDigit)
  let places := ((places.map String.toList).getD []).take 9
  let places := Text.dropWhileEnd (· = '0') places
  return hour ++ ':' :: minute ++ ':' :: second ++ (if places.isEmpty then [] else '.' :: places)

/-- Two digits of a number below a hundred. -/
def twoDigits (n : Nat) : List Char :=
  [Char.ofNat ('0'.toNat + n / 10), Char.ofNat ('0'.toNat + n % 10)]

/-- A difference to universal time, with the greatest numbers of hours and minutes that may be
written and the greatest number of minutes that it may come to. -/
def offset (lastHour lastMinute most : Nat) : Reader (List Char) :=
  (do let _ ← satisfy fun c => c = 'Z' || c = 'z'; return ['Z'])
  <|> (do
    let sign ← satisfy fun c => c = '+' || c = '-'
    let hour ← field 2 0 lastHour
    char ':'
    let minute ← field 2 0 lastMinute
    let total := 60 * baseValue 10 hour + baseValue 10 minute
    if most < total then failure
    return (if total = 0 then '+' else sign) :: twoDigits (total / 60)
      ++ ':' :: twoDigits (total % 60))

/-- What stands between a date and a time. -/
def timeMark : Reader Unit := do
  let _ ← satisfy fun c => c = 'T' || c = 't' || c = ' '

/-- A date, a time, or both. -/
def moment : Reader String :=
  (do
    let day ← date
    let rest ← optionally (do
      timeMark
      let clock ← time 23
      let zone ← optionally (offset 23 59 1440)
      return 'T' :: clock ++ zone.getD [])
    return String.ofList (day ++ rest.getD []))
  <|> (do return String.ofList (← time 23))

/-- A date, a time, or both, as a whole text. The hours and the differences to universal time may be
a little greater than in a value of a file. -/
def readMoment? (text : String) : Option String :=
  let reader : Reader (List Char) :=
    (do
      let day ← date
      let rest ← (do
          timeMark
          let clock ← time 24
          let zone ← optionally (offset 99 99 1440)
          return 'T' :: clock ++ zone.getD [])
        <|> pure []
      return day ++ rest)
    <|> time 24
  match reader (Cursor.start text) with
  | some (cs, ⟨_, [], _, _, _⟩) => some (String.ofList cs)
  | _ => none

/-- A number or a word. -/
def atom : Reader Scalar := do
  let text := (← takeWhile1 fun c => c.isAlphanum || c = '_' || c = '+' || c = '-' || c = '.').toList
  let (negative, signed, body) :=
    match text with
    | '-' :: rest => (true, true, rest)
    | '+' :: rest => (false, true, rest)
    | rest => (false, false, rest)
  if text = "true".toList then return .bool true
  if text = "false".toList then return .bool false
  if body = "inf".toList then return .real (.withSign negative .infinity)
  if body = "nan".toList then return .real (.withSign negative .nan)
  match (readWhole? negative signed body).or (readReal? negative body) with
  | some value => return value
  | none => failure

/-! ## Tables under construction -/

/-- A part of a table under construction. The entries of a table stand in the order in which their
keys came. -/
inductive Node where
  /-- A text in quotes. -/
  | quoted (text : String)
  /-- Any other value without parts. -/
  | plain (value : Scalar)
  | array (items : List Node)
  /-- A table that was written as a value. -/
  | inlineTable (entries : List (String × Node))
  /-- A table; `closed` if it must not be opened again, `dotted` if dotted keys made it. -/
  | table (closed dotted : Bool) (entries : List (String × Node))
  /-- An array of tables, the last one first. -/
  | tables (items : List (List (String × Node)))
  deriving Inhabited

/-- The first key of a table that is a date or a time. -/
def momentKey : String := "$__toml_private_datetime"

/-- The date or the time of a table, if its first key says that it is one: a text in quotes. -/
def momentOf? : List (String × Node) → Option (Option String)
  | (key, node) :: _ =>
    if key = momentKey then
      match node with
      | .quoted text => some (readMoment? text)
      | _ => some none
    else none
  | [] => none

mutual

/-- The setting that a part has become; none if a table is said to be a date and is none. -/
def Node.finish? (origin : Option String) : Node → Option Setting
  | .quoted text => some (.scalar origin (.text text))
  | .plain value => some (.scalar origin value)
  | .array items => (finishItems? origin items).map (.list origin)
  | .inlineTable entries =>
    match momentOf? entries with
    | some moment => moment.map fun text => .scalar origin (.text text)
    | none => (finishEntries? origin entries).map fun entries => .table origin entries
  | .table _ _ entries =>
    match momentOf? entries with
    | some moment => moment.map fun text => .scalar origin (.text text)
    | none => (finishEntries? origin entries).map fun entries => .table origin entries
  | .tables items => (finishTables? origin items).map fun items => .list origin items.reverse

/-- The settings that items have become. -/
def Node.finishItems? (origin : Option String) : List Node → Option (List Setting)
  | [] => some []
  | node :: rest => do
    let item ← node.finish? origin
    let items ← finishItems? origin rest
    return item :: items

/-- The settings that entries have become. -/
def Node.finishEntries? (origin : Option String) :
    List (String × Node) → Option (List (String × Setting))
  | [] => some []
  | (key, node) :: rest => do
    let value ← node.finish? origin
    let entries ← finishEntries? origin rest
    return Dictionary.insert key value entries

/-- The settings that tables have become. -/
def Node.finishTables? (origin : Option String) :
    List (List (String × Node)) → Option (List Setting)
  | [] => some []
  | entries :: rest => do
    let item ←
      match momentOf? entries with
      | some moment => moment.map fun text => .scalar origin (.text text)
      | none => (finishEntries? origin entries).map fun entries => .table origin entries
    let items ← finishTables? origin rest
    return item :: items

end

/-- Give a value to a key with dots. The tables on the way are made if they are missing, or were
made on the way to others; the last of them must have been made by a key with dots. -/
def giveValue (value : Node) : List String → List (String × Node) → Option (List (String × Node))
  | [], _ => none
  | [key], entries =>
    match Assoc.find? key entries with
    | some _ => none
    | none => some (Assoc.set key value entries)
  | key :: rest, entries =>
    match Assoc.find? key entries with
    | none =>
      (giveValue value rest []).map fun inner =>
        Assoc.set key (.table true true inner) entries
    | some (.table closed dotted inner) =>
      if !dotted && (closed || rest.length = 1) then none
      else
        (giveValue value rest inner).map fun inner =>
          Assoc.set key (.table closed dotted inner) entries
    | some (.tables (inner :: before)) =>
      if rest.length = 1 then none
      else
        (giveValue value rest inner).map fun inner =>
          Assoc.set key (.tables (inner :: before)) entries
    | some _ => none

/-- Change the table that a header leads to; tables on the way are made if they are missing. -/
def changeTable (change : List (String × Node) → Option (List (String × Node))) :
    List String → List (String × Node) → Option (List (String × Node))
  | [], entries => change entries
  | key :: rest, entries =>
    match Assoc.find? key entries with
    | none =>
      (changeTable change rest []).map fun inner =>
        Assoc.set key (.table false false inner) entries
    | some (.table closed dotted inner) =>
      (changeTable change rest inner).map fun inner =>
        Assoc.set key (.table closed dotted inner) entries
    | some (.tables (inner :: before)) =>
      (changeTable change rest inner).map fun inner =>
        Assoc.set key (.tables (inner :: before)) entries
    | some _ => none

/-- Open the table of a header. -/
def openTable : List String → List (String × Node) → Option (List (String × Node))
  | path, root =>
    match path.getLast? with
    | none => none
    | some key =>
      changeTable (fun entries =>
        match Assoc.find? key entries with
        | none => some (Assoc.set key (.table true false []) entries)
        | some (.table false dotted inner) =>
          some (Assoc.set key (.table true dotted inner) entries)
        | some _ => none) path.dropLast root

/-- Open a further table of an array. -/
def openItem : List String → List (String × Node) → Option (List (String × Node))
  | path, root =>
    match path.getLast? with
    | none => none
    | some key =>
      changeTable (fun entries =>
        match Assoc.find? key entries with
        | none => some (Assoc.set key (.tables [[]]) entries)
        | some (.tables items) => some (Assoc.set key (.tables ([] :: items)) entries)
        | some _ => none) path.dropLast root

/-! ## Values and lines -/

mutual

/-- A value within so many others. -/
def readValue (depth : Nat) : (fuel : Nat) → Reader Node
  | 0 => failure
  | fuel + 1 =>
    (do return .quoted (← anyText fuel))
    <|> (do
      char '['
      let items ← readItems (depth + 1) fuel []
      char ']'
      return .array items)
    <|> (do
      char '\x7b'
      spaces
      let entries ← readEntries (depth + 1) fuel [] true
      spaces
      char '\x7d'
      return .inlineTable entries)
    <|> (do return .plain (.text (← moment)))
    <|> (do return .plain (← atom))

/-- The items of an array; those before come first, last one first. -/
def readItems (depth : Nat) : (fuel : Nat) → List Node → Reader (List Node)
  | 0, _ => failure
  | fuel + 1, before => do
    if depthLimit ≤ depth then failure
    gap fuel
    match ← optionally (readValue depth fuel) with
    | none => return before.reverse
    | some item =>
      gap fuel
      if ← flag ',' then readItems depth fuel (item :: before)
      else return (item :: before).reverse

/-- The entries of an inline table, added to those before. -/
def readEntries (depth : Nat) : (fuel : Nat) → List (String × Node) → Bool →
    Reader (List (String × Node))
  | 0, _, _ => failure
  | fuel + 1, before, first => do
    if depthLimit ≤ depth then failure
    match ← optionally (dottedKey fuel) with
    | none => if first then return before else failure
    | some path =>
      spaces
      char '='
      spaces
      let value ← readValue depth fuel
      match giveValue value path before with
      | none => failure
      | some entries =>
        let more ← optionally (do spaces; char ','; spaces)
        if more.isSome then readEntries depth fuel entries false else return entries

end

/-- What is read so far: the whole table and the path of the open part. -/
structure Document where
  root : List (String × Node) := []
  path : List String := []

/-- A line: a header, an entry, or nothing. -/
def readLine (fuel : Nat) (document : Document) : Reader Document := do
  spaces
  let next ← (do
      exactly ['[', '[']
      spaces
      let path ← dottedKey fuel
      spaces
      exactly [']', ']']
      match openItem path document.root with
      | some root => return { root, path }
      | none => failure)
    <|> (do
      char '['
      spaces
      let path ← dottedKey fuel
      spaces
      char ']'
      match openTable path document.root with
      | some root => return { root, path }
      | none => failure)
    <|> (do
      let key ← dottedKey fuel
      spaces
      char '='
      spaces
      let value ← readValue 0 fuel
      match changeTable (giveValue value key) document.path document.root with
      | some root => return { document with root }
      | none => failure)
    <|> pure document
  lineEnd
  return next

/-- All lines. -/
def readLines : (fuel : Nat) → Document → Reader Document
  | 0, document => pure document
  | fuel + 1, document => fun cursor =>
    if cursor.rest.isEmpty then some (document, cursor)
    else
      match readLine fuel document cursor with
      | some (document, next) => readLines fuel document next
      | none => none

/-- The mark that may stand before a file. -/
def byteOrderMark : Char := Char.ofNat 0xfeff

/-- What a file holds: its table, or a date or a time. -/
def parse? (origin : Option String) (text : String) : Option Setting :=
  let start := Cursor.start text
  let reader : Reader Document := do
    let _ ← flag byteOrderMark
    readLines (start.rest.length + 2) {}
  match reader start with
  | some (document, ⟨_, [], _, _, _⟩) => (Node.table true false document.root).finish? origin
  | _ => none

end Toml

end LiveTemplates
