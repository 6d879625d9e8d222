import LiveTemplates.Text.CaseTables
import LiveTemplates.Text.Ranges

set_option autoImplicit false

/-! # Capitals and small letters

The full Unicode case mappings. The one mapping that depends on context is the capital sigma, whose
small letter has another form at the end of a word. -/

namespace LiveTemplates

namespace Text

/-- The code points that a mapping gives for one. -/
def mapCase (rows : List (Nat × Nat × Nat × Int)) (expansions : List (Nat × List Nat)) (n : Nat) :
    List Nat :=
  match expansions.find? fun entry => entry.1 = n with
  | some (_, image) => image
  | none =>
    match rows.find? fun (first, last, step, _) =>
        first ≤ n && n ≤ last && (n - first) % step = 0 with
    | some (_, _, _, shift) => [(n + shift).toNat]
    | none => [n]

/-- The capitals of a character. -/
def upperChar (c : Char) : List Char :=
  if c.toNat < 128 then [c.toUpper]
  else (mapCase upperRows upperExpansions c.toNat).map Char.ofNat

/-- The small letters of a character outside any context. -/
def lowerChar (c : Char) : List Char :=
  if c.toNat < 128 then [c.toLower]
  else (mapCase lowerRows lowerExpansions c.toNat).map Char.ofNat

/-- Whether the first character that is not case-ignorable is cased. -/
def startsCased (cs : List Char) : Bool :=
  match cs.dropWhile fun c => inRanges c.toNat caseIgnorableRanges with
  | [] => false
  | c :: _ => inRanges c.toNat casedRanges

/-- The small letters of a text; the characters before come first, last one first. -/
def lowerFrom (result : String) (before : List Char) : List Char → String
  | [] => result
  | c :: rest =>
    let image :=
      if c.toNat = 0x3a3 then
        [Char.ofNat (if startsCased before && !startsCased rest then 0x3c2 else 0x3c3)]
      else lowerChar c
    lowerFrom (image.foldl String.push result) (c :: before) rest

/-- A text in small letters. -/
def lower (s : String) : String :=
  lowerFrom "" [] s.toList

/-- A text in capitals. -/
def upper (s : String) : String :=
  s.foldl (fun result c => (upperChar c).foldl String.push result) ""

end Text

end LiveTemplates
