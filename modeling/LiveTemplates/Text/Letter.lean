import LiveTemplates.Text.LetterTables
import LiveTemplates.Text.Ranges

set_option autoImplicit false

/-! # Letters, numbers and identifiers -/

namespace LiveTemplates

namespace Text

/-- Whether a character has the property Alphabetic. -/
def isLetter (c : Char) : Bool :=
  inRanges c.toNat alphabeticRanges

/-- Whether a character is in one of the number categories. -/
def isNumeral (c : Char) : Bool :=
  inRanges c.toNat numericRanges

/-- A letter, `_` or `$`, and then letters, numbers, `_` and `$`. -/
def isIdentifier (s : String) : Bool :=
  match s.toList with
  | [] => false
  | c :: rest =>
    (isLetter c || c = '_' || c = '$')
      && rest.all fun c => isLetter c || isNumeral c || c = '_' || c = '$'

end Text

end LiveTemplates
