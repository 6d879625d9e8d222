set_option autoImplicit false

/-! # Blank characters

The characters with the Unicode property White_Space, and the operations that cut text at them. -/

namespace LiveTemplates

namespace Text

/-- Whether a character has the property White_Space. -/
def isBlank (c : Char) : Bool :=
  let n := c.toNat
  (0x9 ≤ n && n ≤ 0xd) || n = 0x20 || n = 0x85 || n = 0xa0 || n = 0x1680
    || (0x2000 ≤ n && n ≤ 0x200a) || n = 0x2028 || n = 0x2029 || n = 0x202f || n = 0x205f
    || n = 0x3000

/-- Drop the elements at the end for which the test holds. -/
def dropWhileEnd {α : Type} (test : α → Bool) (cs : List α) : List α :=
  (cs.reverse.dropWhile test).reverse

/-- Drop the blanks at the start. -/
def trimStart (s : String) : String :=
  String.ofList (s.toList.dropWhile isBlank)

/-- Drop the blanks at the end. -/
def trimEnd (s : String) : String :=
  String.ofList (dropWhileEnd isBlank s.toList)

/-- Drop the blanks at both ends. -/
def trim (s : String) : String :=
  String.ofList (dropWhileEnd isBlank (s.toList.dropWhile isBlank))

/-- The pieces between separators, empty ones included: one more than there are separators. -/
def splitAtChars (separator : Char → Bool) : List Char → List (List Char)
  | [] => [[]]
  | c :: rest =>
    match splitAtChars separator rest with
    | [] => [[c]]
    | piece :: pieces => if separator c then [] :: piece :: pieces else (c :: piece) :: pieces

/-- The pieces of a text between separators. -/
def splitAt (separator : Char → Bool) (s : String) : List String :=
  (splitAtChars separator s.toList).map String.ofList

/-- The words of a text: its pieces between blanks, without the empty ones. -/
def words (s : String) : List String :=
  ((splitAtChars isBlank s.toList).filter (fun piece => !piece.isEmpty)).map String.ofList

/-- The last piece of a text after the separators. -/
def lastPiece (separator : Char → Bool) (s : String) : String :=
  String.ofList (s.toList.reverse.takeWhile fun c => !separator c).reverse

/-- Change the ASCII capitals to small letters and leave the rest. -/
def lowerAscii (s : String) : String :=
  s.map Char.toLower

end Text

end LiveTemplates
