import LiveTemplates.Json.Value

set_option autoImplicit false

/-! # JSON text of a value

The compact form: no blanks, fields in key order, and in strings only the quote, the backslash and
control characters are escaped. -/

namespace LiveTemplates

namespace Json

/-- Lower case hexadecimal digits of a number, at least `width` of them. -/
def hexDigits (width n : Nat) : List Char :=
  let digits := Nat.toDigits 16 n
  List.replicate (width - digits.length) '0' ++ digits

/-- A character inside a JSON string. -/
def escapeChar (c : Char) : List Char :=
  if c = '"' then ['\\', '"']
  else if c = '\\' then ['\\', '\\']
  else if c = '\n' then ['\\', 'n']
  else if c = '\r' then ['\\', 'r']
  else if c = '\t' then ['\\', 't']
  else if c.toNat = 8 then ['\\', 'b']
  else if c.toNat = 12 then ['\\', 'f']
  else if c.toNat < 32 then '\\' :: 'u' :: hexDigits 4 c.toNat
  else [c]

/-- A JSON string. -/
def quote (s : String) : String :=
  (s.foldl (fun text c => (escapeChar c).foldl String.push text) "\"").push '"'

mutual

/-- Append the text of a value. -/
def print (text : String) : Json → String
  | null => text ++ "null"
  | bool true => text ++ "true"
  | bool false => text ++ "false"
  | number n => text ++ n.text
  | string s => text ++ quote s
  | array items => (printItems (text.push '[') true items).push ']'
  | object fields => (printFields (text.push '\x7b') true fields).push '\x7d'

/-- Append the texts of items, with commas between them. -/
def printItems (text : String) (first : Bool) : List Json → String
  | [] => text
  | item :: rest => printItems (print (if first then text else text.push ',') item) false rest

/-- Append the texts of fields, with commas between them. -/
def printFields (text : String) (first : Bool) : List (String × Json) → String
  | [] => text
  | (key, value) :: rest =>
    let text := if first then text else text.push ','
    printFields (print ((text ++ quote key).push ':') value) false rest

end

/-- The compact JSON text of a value. -/
def compact (value : Json) : String :=
  print "" value

end Json

end LiveTemplates
