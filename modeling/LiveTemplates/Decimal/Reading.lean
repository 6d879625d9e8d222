import LiveTemplates.Decimal.Double

set_option autoImplicit false

/-! # Reading a decimal as a double

The double nearest to a written decimal. The exponent is compared with the number of digits first,
so that very large and very small ones need no large powers. -/

namespace LiveTemplates

namespace Double

/-- The double nearest to `digits · 10 ^ exponent`. -/
def ofDecimal (negative : Bool) (digits : Nat) (exponent : Int) : Double :=
  let size : Int := (Nat.toDigits 10 digits).length
  let magnitude :=
    if digits = 0 then zero
    else if 400 < size + exponent then infinity
    else if size + exponent < -400 then zero
    else if 0 ≤ exponent then nearest (digits * Nat.pow 10 exponent.toNat) 1
    else nearest digits (Nat.pow 10 (-exponent).toNat)
  withSign negative magnitude

/-- The number of a row of decimal digits. -/
def digitsValue (cs : List Char) : Nat :=
  cs.foldl (fun n c => 10 * n + (c.toNat - '0'.toNat)) 0

/-- The whole number after an exponent mark, with its sign. -/
def readExponent? (cs : List Char) : Option Int :=
  let (negative, digits) :=
    match cs with
    | '-' :: rest => (true, rest)
    | '+' :: rest => (false, rest)
    | rest => (false, rest)
  if digits.isEmpty || digits.any fun c => !c.isDigit then none
  else
    let n : Int := min (digitsValue digits) 1000000
    some (if negative then -n else n)

/-- Digits with perhaps a point and an exponent, without a sign. -/
def readPositive? (negative : Bool) (cs : List Char) : Option Double :=
  let whole := cs.takeWhile Char.isDigit
  let rest := cs.dropWhile Char.isDigit
  let (places, rest) :=
    match rest with
    | '.' :: rest => (rest.takeWhile Char.isDigit, rest.dropWhile Char.isDigit)
    | rest => ([], rest)
  let exponent :=
    match rest with
    | [] => some 0
    | c :: rest => if c = 'e' ∨ c = 'E' then readExponent? rest else none
  if whole.isEmpty && places.isEmpty then none
  else
    exponent.map fun exponent =>
      ofDecimal negative (digitsValue (whole ++ places)) (exponent - places.length)

/-- A written number: digits with perhaps a point and an exponent, or a word for infinity or for
no number, with perhaps a sign. -/
def parse? (text : String) : Option Double :=
  let (negative, cs) :=
    match text.toList with
    | '-' :: rest => (true, rest)
    | '+' :: rest => (false, rest)
    | cs => (false, cs)
  let word := String.ofList (cs.map Char.toLower)
  if word = "inf" ∨ word = "infinity" then some (withSign negative infinity)
  else if word = "nan" then some (withSign negative nan)
  else readPositive? negative cs

end Double

end LiveTemplates
