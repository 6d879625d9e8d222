import LiveTemplates.Text.PrintableTables
import LiveTemplates.Text.Ranges

set_option autoImplicit false

/-! # Quoted text in messages

Text is shown between double quotes with a backslash before quotes and backslashes. A line feed, a
carriage return, a tab and a NUL have a letter; other characters that do not show, or that attach
to the one before, are given by their code point in hexadecimal. -/

namespace LiveTemplates

namespace Text

/-- Whether a character stands for itself in quoted text. -/
def isShown (c : Char) : Bool :=
  let n := c.toNat
  if 0x20 ≤ n && n < 0x7f then true
  else !inRanges n unprintableRanges && !inRanges n graphemeExtendRanges

/-- A character in quoted text. -/
def quotedChar (c : Char) : List Char :=
  if c = '"' then ['\\', '"']
  else if c = '\\' then ['\\', '\\']
  else if c = '\n' then ['\\', 'n']
  else if c = '\r' then ['\\', 'r']
  else if c = '\t' then ['\\', 't']
  else if c.toNat = 0 then ['\\', '0']
  else if isShown c then [c]
  else '\\' :: 'u' :: '\x7b' :: (Nat.toDigits 16 c.toNat ++ ['\x7d'])

/-- A text between quotes. -/
def quoted (s : String) : String :=
  (s.foldl (fun text c => (quotedChar c).foldl String.push text) "\"").push '"'

/-- A list of quoted texts between brackets. -/
def quotedList (items : List String) : String :=
  "[" ++ ", ".intercalate (items.map quoted) ++ "]"

end Text

end LiveTemplates
