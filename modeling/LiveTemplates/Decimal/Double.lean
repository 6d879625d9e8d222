set_option autoImplicit false

/-! # Binary64 numbers by their bits

A double is kept as its 64 bits, so that two doubles are equal exactly if they are the same one.
A finite double is `m · 2 ^ q` with `m < 2 ^ 53`. Arithmetic on finite doubles is exact arithmetic
on natural numbers followed by one rounding (`Double.nearest`), to the even neighbour on a tie.
Powers are written `Nat.pow`, which is the same function whatever else gives a meaning to `^`. -/

namespace LiveTemplates

/-- A binary64 number. -/
structure Double where
  bits : UInt64
  deriving DecidableEq, Inhabited

namespace Double

/-- Whether the sign bit is set. -/
def isNegative (x : Double) : Bool :=
  x.bits >>> 63 = 1

/-- The eleven bits of the exponent. -/
def exponentField (x : Double) : Nat :=
  ((x.bits >>> 52) &&& 0x7ff).toNat

/-- The fifty-two bits below the exponent. -/
def fraction (x : Double) : Nat :=
  (x.bits &&& 0xfffffffffffff).toNat

/-- Neither infinite nor a NaN. -/
def isFinite (x : Double) : Bool :=
  x.exponentField ≠ 0x7ff

/-- A NaN. -/
def isNan (x : Double) : Bool :=
  x.exponentField = 0x7ff && x.fraction ≠ 0

/-- Infinite, with either sign. -/
def isInfinite (x : Double) : Bool :=
  x.exponentField = 0x7ff && x.fraction = 0

/-- Zero, with either sign. -/
def isZero (x : Double) : Bool :=
  x.exponentField = 0 && x.fraction = 0

/-- Finite, not zero and not below the smallest number of full precision. -/
def isNormal (x : Double) : Bool :=
  x.exponentField ≠ 0 && x.exponentField ≠ 0x7ff

/-- The `m` of a finite double `m · 2 ^ q`. -/
def significand (x : Double) : Nat :=
  if x.exponentField = 0 then x.fraction else Nat.pow 2 52 + x.fraction

/-- The `q` of a finite double `m · 2 ^ q`. -/
def scale (x : Double) : Int :=
  (max x.exponentField 1 : Nat) - 1075

/-- The same number with the sign bit set as told. -/
def withSign (negative : Bool) (x : Double) : Double :=
  if negative then ⟨x.bits ||| 0x8000000000000000⟩ else ⟨x.bits &&& 0x7fffffffffffffff⟩

/-- Zero with the sign bit clear. -/
def zero : Double := ⟨0⟩

/-- Positive infinity. -/
def infinity : Double := ⟨0x7ff0000000000000⟩

/-- The NaN with only the quiet bit set. -/
def nan : Double := ⟨0x7ff8000000000000⟩

/-- The double `m · 2 ^ q`, for `m ≤ 2 ^ 53` that has its full precision or the least scale. -/
def ofParts (m : Nat) (q : Int) : Double :=
  let (m, q) := if m = Nat.pow 2 53 then (Nat.pow 2 52, q + 1) else (m, q)
  if m < Nat.pow 2 52 then ⟨m.toUInt64⟩
  else if q > 971 then infinity
  else ⟨((q + 1075).toNat * Nat.pow 2 52 + (m - Nat.pow 2 52)).toUInt64⟩

/-- `num / den` rounded to a whole number, a tie to the even neighbour. -/
def roundHalfEven (num den : Nat) : Nat :=
  let floor := num / den
  let rest := 2 * (num % den)
  if rest < den then floor
  else if den < rest then floor + 1
  else if floor % 2 = 0 then floor else floor + 1

/-- `num / den · 2 ^ (- q)` as a fraction of whole numbers. -/
def scaled (num den : Nat) (q : Int) : Nat × Nat :=
  if 0 ≤ q then (num, den * Nat.pow 2 q.toNat) else (num * Nat.pow 2 (-q).toNat, den)

/-- The double nearest to `num / den`, for `den ≠ 0`; a tie goes to the even neighbour. -/
def nearest (num den : Nat) : Double :=
  if num = 0 then zero
  else
    let q := max ((Nat.log2 num : Int) - Nat.log2 den - 52) (-1074)
    let (n, d) := scaled num den q
    let q := if n / d < Nat.pow 2 52 then max (q - 1) (-1074) else q
    let (n, d) := scaled num den q
    if q > 971 then infinity else ofParts (roundHalfEven n d) q

/-- The double nearest to a natural number. -/
def ofNat (n : Nat) : Double :=
  nearest n 1

/-- The double nearest to a whole number. -/
def ofInt (i : Int) : Double :=
  withSign (i < 0) (ofNat i.natAbs)

/-- The size of a finite double as a fraction of natural numbers. -/
def toFraction (x : Double) : Nat × Nat :=
  if 0 ≤ x.scale then (x.significand * Nat.pow 2 x.scale.toNat, 1)
  else (x.significand, Nat.pow 2 (-x.scale).toNat)

/-- The product of two finite doubles. -/
def mul (x y : Double) : Double :=
  let (a, b) := x.toFraction
  let (c, d) := y.toFraction
  withSign (x.isNegative != y.isNegative) (nearest (a * c) (b * d))

/-- The quotient of two finite doubles, the second not zero. -/
def div (x y : Double) : Double :=
  let (a, b) := x.toFraction
  let (c, d) := y.toFraction
  withSign (x.isNegative != y.isNegative) (nearest (a * d) (b * c))

/-- The difference of two finite doubles with the sign bits clear. -/
def sub (x y : Double) : Double :=
  let (a, b) := x.toFraction
  let (c, d) := y.toFraction
  if c * b ≤ a * d then nearest (a * d - c * b) (b * d)
  else withSign true (nearest (c * b - a * d) (b * d))

/-- Equality of numbers: both zeros are equal and a NaN equals nothing. -/
def sameNumber (x y : Double) : Bool :=
  !x.isNan && !y.isNan && (x = y || (x.isZero && y.isZero))

end Double

end LiveTemplates
