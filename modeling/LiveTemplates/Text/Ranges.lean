set_option autoImplicit false

/-! # Membership in a list of ranges -/

namespace LiveTemplates

namespace Text

/-- Whether a code point lies in one of the closed ranges, which are in ascending order. -/
def inRanges (n : Nat) : List (Nat × Nat) → Bool
  | [] => false
  | (first, last) :: rest => if n < first then false else if n ≤ last then true else inRanges n rest

end Text

end LiveTemplates
