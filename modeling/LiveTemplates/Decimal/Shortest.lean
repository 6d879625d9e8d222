import LiveTemplates.Decimal.Double

set_option autoImplicit false

/-! # The fewest digits that read back

Every finite double is an interval of reals that round to it, its ends included if its
significand is even. Of the decimals in that interval those with the fewest digits are considered,
and the one nearest to the double itself is its short form. -/

namespace LiveTemplates

namespace Double

/-- The reals that round to a positive double: over one denominator the low end, the double
itself and the high end, and whether the ends belong to them. -/
structure Interval where
  low : Nat
  value : Nat
  high : Nat
  denominator : Nat
  closed : Bool

/-- The reals that round to the size of a finite double. -/
def interval (x : Double) : Interval :=
  let m := x.significand
  let q := x.scale - 2
  let low := if m = Nat.pow 2 52 ∧ -1074 < x.scale then 4 * m - 1 else 4 * m - 2
  let factor := if 0 ≤ q then Nat.pow 2 q.toNat else 1
  { low := low * factor, value := 4 * m * factor, high := (4 * m + 2) * factor
    denominator := if 0 ≤ q then 1 else Nat.pow 2 (-q).toNat
    closed := m % 2 = 0 }

/-- The `e` with `10 ^ (e - 1) ≤ value < 10 ^ e`. -/
def Interval.magnitude (i : Interval) : Int :=
  if i.denominator ≤ i.value then ((Nat.toDigits 10 (i.value / i.denominator)).length : Int)
  else go 400 0 (i.value * 10)
where
  /-- Count the zeros that follow the decimal point. -/
  go : Nat → Int → Nat → Int
    | 0, e, _ => e
    | fuel + 1, e, scaled => if i.denominator ≤ scaled then e else go fuel (e - 1) (scaled * 10)

/-- Whether `digits · 10 ^ exponent` lies in the interval, and its distance from the double in a
unit that depends on the exponent alone. -/
def Interval.probe (i : Interval) (digits : Nat) (exponent : Int) : Option Nat :=
  let up := Nat.pow 10 (-exponent).toNat
  let point := digits * Nat.pow 10 exponent.toNat * i.denominator
  let inside :=
    if i.closed then decide (i.low * up ≤ point) && decide (point ≤ i.high * up)
    else decide (i.low * up < point) && decide (point < i.high * up)
  if inside then some (max point (i.value * up) - min point (i.value * up)) else none

/-- The decimal of a given exponent that is in the interval and nearest to the double. -/
def Interval.onGrid (i : Interval) (exponent : Int) : Option Nat :=
  let floor :=
    i.value * Nat.pow 10 (-exponent).toNat / (i.denominator * Nat.pow 10 exponent.toNat)
  match i.probe floor exponent, i.probe (floor + 1) exponent with
  | none, none => none
  | some _, none => some floor
  | none, some _ => some (floor + 1)
  | some below, some above =>
    if below < above then some floor
    else if above < below then some (floor + 1)
    else if floor % 2 = 0 then some floor else some (floor + 1)

/-- Search the grids from one digit upwards. -/
def Interval.search (i : Interval) : Nat → Int → Nat × Int
  | 0, exponent => (i.value / i.denominator, exponent)
  | fuel + 1, exponent =>
    match i.onGrid exponent with
    | some digits => (digits, exponent)
    | none => i.search fuel (exponent - 1)

/-- Move the zeros at the end of the digits into the exponent. -/
def dropZeros : Nat → Nat → Int → Nat × Int
  | 0, digits, exponent => (digits, exponent)
  | fuel + 1, digits, exponent =>
    if digits ≠ 0 ∧ digits % 10 = 0 then dropZeros fuel (digits / 10) (exponent + 1)
    else (digits, exponent)

/-- The digits and the exponent of the short form of a finite double that is not zero. -/
def shortest (x : Double) : Nat × Int :=
  let i := x.interval
  let (digits, exponent) := i.search 18 (i.magnitude - 1)
  dropZeros 20 digits exponent

end Double

end LiveTemplates
