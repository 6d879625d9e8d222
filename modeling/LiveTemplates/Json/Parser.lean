import LiveTemplates.Json.Value

set_option autoImplicit false

/-! # Reading JSON text

`Json.parse?` reads one value with blanks around it. Numbers are read into a significand of 64
bits: digits that no longer fit are left out, and the significand is then scaled by a power of ten
with one rounding. Values may be nested 127 deep. -/

namespace LiveTemplates

namespace Json

/-! ## Numbers -/

/-- One more than the largest significand. -/
def significandBound : Nat := Nat.pow 2 64

/-- The value of a decimal digit. -/
def digit? (c : Char) : Option Nat :=
  if c.isDigit then some (c.toNat - '0'.toNat) else none

/-- Scale by a negative power of ten, at most 308 places at a time. -/
def scaleDown : Nat → Double → Nat → Double
  | 0, x, _ => x
  | fuel + 1, x, places =>
    if places ≤ 308 then x.div (.ofNat (Nat.pow 10 places))
    else if x.isZero then x
    else scaleDown fuel (x.div (.ofNat (Nat.pow 10 308))) (places - 308)

/-- The double of a significand and a decimal exponent; none if it is too large. -/
def scaleDouble? (negative : Bool) (significand : Nat) (exponent : Int) : Option Double :=
  let x := Double.ofNat significand
  let scaled :=
    if exponent < 0 then some (scaleDown 10 x (min exponent.natAbs 3000))
    else if exponent ≤ 308 then
      let y := x.mul (.ofNat (Nat.pow 10 exponent.toNat))
      if y.isFinite then some y else none
    else if significand = 0 then some x
    else none
  scaled.map (Double.withSign negative)

/-- Digits after the exponent mark. -/
def readExponent? (negative : Bool) (significand : Nat) (exponent : Int) (cs : List Char) :
    Option (Number × List Char) :=
  let (down, cs) :=
    match cs with
    | '+' :: rest => (false, rest)
    | '-' :: rest => (true, rest)
    | cs => (false, cs)
  let digits := cs.takeWhile Char.isDigit
  let rest := cs.dropWhile Char.isDigit
  if digits.isEmpty then none
  else
    let shift := digits.foldl (fun n c => min (10 * n + (c.toNat - '0'.toNat)) (Nat.pow 2 31)) 0
    if Nat.pow 2 31 ≤ shift then
      if significand ≠ 0 ∧ !down then none
      else some (.double (Double.withSign negative .zero), rest)
    else
      let exponent := if down then exponent - shift else exponent + shift
      (scaleDouble? negative significand exponent).map fun x => (.double x, rest)

/-- What follows the digits of a double: an exponent or nothing. -/
def finishDouble? (negative : Bool) (significand : Nat) (exponent : Int) :
    List Char → Option (Number × List Char)
  | 'e' :: rest | 'E' :: rest => readExponent? negative significand exponent rest
  | rest => (scaleDouble? negative significand exponent).map fun x => (.double x, rest)

/-- Digits after the decimal point: those that fit go into the significand. -/
def readFraction? (negative : Bool) :
    (significand : Nat) → (exponent : Int) → List Char → Option (Number × List Char)
  | significand, exponent, c :: rest =>
    match digit? c with
    | some d =>
      if significandBound ≤ significand * 10 + d then
        finishDouble? negative significand exponent (rest.dropWhile Char.isDigit)
      else readFraction? negative (significand * 10 + d) (exponent - 1) rest
    | none => finishDouble? negative significand exponent (c :: rest)
  | significand, exponent, [] => finishDouble? negative significand exponent []

/-- What follows the digits before the decimal point. -/
def finishNumber? (negative : Bool) (significand : Nat) (dropped : Nat) :
    List Char → Option (Number × List Char)
  | '.' :: rest =>
    match rest with
    | c :: _ => if c.isDigit then readFraction? negative significand dropped rest else none
    | [] => none
  | 'e' :: rest | 'E' :: rest => readExponent? negative significand dropped rest
  | rest =>
    if dropped = 0 then
      if negative then
        if significand = 0 ∨ Nat.pow 2 63 < significand then
          some (.double (Double.withSign true (.ofNat significand)), rest)
        else some (.whole (-significand), rest)
      else some (.whole significand, rest)
    else (scaleDouble? negative significand dropped).map fun x => (.double x, rest)

/-- Digits before the decimal point: once one does not fit, the rest are counted only. -/
def readDigits? (negative : Bool) : (significand : Nat) → List Char → Option (Number × List Char)
  | significand, c :: rest =>
    match digit? c with
    | some d =>
      if significandBound ≤ significand * 10 + d then
        let more := rest.takeWhile Char.isDigit
        finishNumber? negative significand (more.length + 1) (rest.dropWhile Char.isDigit)
      else readDigits? negative (significand * 10 + d) rest
    | none => finishNumber? negative significand 0 (c :: rest)
  | significand, [] => finishNumber? negative significand 0 []

/-- A number without its sign; a zero at the start stands alone. -/
def readUnsigned? (negative : Bool) : List Char → Option (Number × List Char)
  | '0' :: rest =>
    match rest with
    | c :: _ => if c.isDigit then none else finishNumber? negative 0 0 rest
    | [] => finishNumber? negative 0 0 []
  | c :: rest => if c.isDigit then readDigits? negative 0 (c :: rest) else none
  | [] => none

/-- A number. -/
def readNumber? : List Char → Option (Number × List Char)
  | '-' :: rest => readUnsigned? true rest
  | cs => readUnsigned? false cs

/-! ## Strings -/

/-- The value of a hexadecimal digit. -/
def hexDigit? (c : Char) : Option Nat :=
  if c.isDigit then some (c.toNat - '0'.toNat)
  else if 'a' ≤ c ∧ c ≤ 'f' then some (c.toNat - 'a'.toNat + 10)
  else if 'A' ≤ c ∧ c ≤ 'F' then some (c.toNat - 'A'.toNat + 10)
  else none

/-- The value of four hexadecimal digits. -/
def hexFour? (a b c d : Char) : Option Nat := do
  let a ← hexDigit? a
  let b ← hexDigit? b
  let c ← hexDigit? c
  let d ← hexDigit? d
  some (((a * 16 + b) * 16 + c) * 16 + d)

/-- The character of a one letter escape. -/
def shortEscape? : Char → Option Char
  | '"' => some '"'
  | '\\' => some '\\'
  | '/' => some '/'
  | 'b' => some '\x08'
  | 'f' => some '\x0c'
  | 'n' => some '\n'
  | 'r' => some '\r'
  | 't' => some '\t'
  | _ => none

/-- The inside of a string up to its closing quote. The text so far comes first. -/
def readString? (text : String) : List Char → Option (String × List Char)
  | [] => none
  | '"' :: rest => some (text, rest)
  | '\\' :: 'u' :: a :: b :: c :: d :: rest =>
    match hexFour? a b c d with
    | none => none
    | some high =>
      if 0xd800 ≤ high ∧ high < 0xdc00 then
        match rest with
        | '\\' :: 'u' :: e :: f :: g :: h :: rest =>
          match hexFour? e f g h with
          | none => none
          | some low =>
            if 0xdc00 ≤ low ∧ low < 0xe000 then
              let n := 0x10000 + (high - 0xd800) * 0x400 + (low - 0xdc00)
              readString? (text.push (Char.ofNat n)) rest
            else none
        | _ => none
      else if 0xdc00 ≤ high ∧ high < 0xe000 then none
      else readString? (text.push (Char.ofNat high)) rest
  | '\\' :: c :: rest =>
    match shortEscape? c with
    | some e => readString? (text.push e) rest
    | none => none
  | c :: rest => if c.toNat < 32 then none else readString? (text.push c) rest

/-! ## Values -/

/-- Drop the blanks that JSON allows between tokens. -/
def skipBlanks (cs : List Char) : List Char :=
  cs.dropWhile fun c => c = ' ' || c = '\n' || c = '\t' || c = '\r'

mutual

/-- A value after blanks, with so many levels of nesting left. -/
def readValue? : (fuel depth : Nat) → List Char → Option (Json × List Char)
  | 0, _, _ => none
  | fuel + 1, depth, cs =>
    match skipBlanks cs with
    | 'n' :: 'u' :: 'l' :: 'l' :: rest => some (.null, rest)
    | 't' :: 'r' :: 'u' :: 'e' :: rest => some (.bool true, rest)
    | 'f' :: 'a' :: 'l' :: 's' :: 'e' :: rest => some (.bool false, rest)
    | '"' :: rest => (readString? "" rest).map fun (s, rest) => (.string s, rest)
    | '[' :: rest =>
      if depth = 0 then none
      else
        match skipBlanks rest with
        | ']' :: rest => some (.array [], rest)
        | rest =>
          (readItems? fuel (depth - 1) [] rest).map fun (items, rest) => (.array items, rest)
    | '\x7b' :: rest =>
      if depth = 0 then none
      else
        match skipBlanks rest with
        | '\x7d' :: rest => some (.object [], rest)
        | rest =>
          (readFields? fuel (depth - 1) [] rest).map fun (fields, rest) => (.object fields, rest)
    | cs => (readNumber? cs).map fun (n, rest) => (.number n, rest)

/-- Items up to the closing bracket; those before them come first, last one first. -/
def readItems? :
    (fuel depth : Nat) → List Json → List Char → Option (List Json × List Char)
  | 0, _, _, _ => none
  | fuel + 1, depth, before, cs =>
    match readValue? fuel depth cs with
    | none => none
    | some (item, rest) =>
      match skipBlanks rest with
      | ',' :: rest => readItems? fuel depth (item :: before) rest
      | ']' :: rest => some ((item :: before).reverse, rest)
      | _ => none

/-- Fields up to the closing brace; of two with one key the later counts. -/
def readFields? :
    (fuel depth : Nat) → List (String × Json) → List Char →
      Option (List (String × Json) × List Char)
  | 0, _, _, _ => none
  | fuel + 1, depth, before, cs =>
    match skipBlanks cs with
    | '"' :: rest =>
      match readString? "" rest with
      | none => none
      | some (key, rest) =>
        match skipBlanks rest with
        | ':' :: rest =>
          match readValue? fuel depth rest with
          | none => none
          | some (value, rest) =>
            let fields := Dictionary.insert key value before
            match skipBlanks rest with
            | ',' :: rest => readFields? fuel depth fields rest
            | '\x7d' :: rest => some (fields, rest)
            | _ => none
        | _ => none
    | _ => none

end

/-- The value at the start of the characters, and what follows it. -/
def readPrefix? (cs : List Char) : Option (Json × List Char) :=
  readValue? (2 * cs.length + 2) 127 cs

/-- The value of a JSON text. -/
def parse? (text : String) : Option Json :=
  match readPrefix? text.toList with
  | some (value, rest) => if (skipBlanks rest).isEmpty then some value else none
  | none => none

end Json

end LiveTemplates
