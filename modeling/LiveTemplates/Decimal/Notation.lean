import LiveTemplates.Decimal.Shortest

set_option autoImplicit false

/-! # Written forms of a double

Two forms are written: the one of JSON text, which turns to an exponent for very large and very
small numbers, and the plain one, which never does. -/

namespace LiveTemplates

namespace Double

/-- Digits with the decimal point after `point` of them, filled up with zeros. -/
def positional (digits : List Char) (point : Int) : List Char :=
  if point ≤ 0 then
    '0' :: '.' :: (List.replicate (-point).toNat '0' ++ digits)
  else if digits.length ≤ point.toNat then
    digits ++ List.replicate (point.toNat - digits.length) '0'
  else
    digits.take point.toNat ++ '.' :: digits.drop point.toNat

/-- Digits with one of them before the point, and an exponent with its sign. -/
def scientific (digits : List Char) (exponent : Int) : List Char :=
  let mantissa :=
    match digits with
    | [] => []
    | [d] => [d]
    | d :: rest => d :: '.' :: rest
  mantissa ++ 'e' :: (if exponent < 0 then '-' else '+') :: Nat.toDigits 10 exponent.natAbs

/-- JSON text of a finite double: the short form, positional from `1e-5` up to but not including
`1e16` with `.0` after a whole number, else with an exponent. -/
def jsonText (x : Double) : String :=
  let body :=
    if x.isZero then ['0', '.', '0']
    else
      let (n, e) := x.shortest
      let digits := Nat.toDigits 10 n
      let point : Int := digits.length + e
      if -5 < point ∧ point ≤ 16 then
        positional digits point ++ (if digits.length ≤ point then ['.', '0'] else [])
      else scientific digits (point - 1)
  String.ofList (if x.isNegative then '-' :: body else body)

/-- The short form of a double, always positional and without a point after a whole number. -/
def plainText (x : Double) : String :=
  let body :=
    if x.isNan then ['N', 'a', 'N']
    else if x.isInfinite then ['i', 'n', 'f']
    else if x.isZero then ['0']
    else
      let (n, e) := x.shortest
      let digits := Nat.toDigits 10 n
      positional digits (digits.length + e)
  String.ofList (if x.isNegative && !x.isNan then '-' :: body else body)

end Double

end LiveTemplates
