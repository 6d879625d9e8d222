set_option autoImplicit false

/-! # UTF-8 and where it breaks

Bytes are text if they are valid UTF-8. If they are not, the fault is located: the index of the
first byte of the sequence that is broken, and how many of its bytes are to be left out, or that
the bytes end inside it. -/

namespace LiveTemplates

namespace Utf8

/-- Where and how bytes fail to be UTF-8. -/
inductive Fault where
  | invalid (length index : Nat)
  | incomplete (index : Nat)
  deriving DecidableEq

/-- The first byte of a sequence: how many bytes follow it, and the range of the next one. -/
def lead? (b : UInt8) : Option (Nat × UInt8 × UInt8) :=
  if 0xc2 ≤ b && b ≤ 0xdf then some (1, 0x80, 0xbf)
  else if b = 0xe0 then some (2, 0xa0, 0xbf)
  else if b = 0xed then some (2, 0x80, 0x9f)
  else if 0xe1 ≤ b && b ≤ 0xef then some (2, 0x80, 0xbf)
  else if b = 0xf0 then some (3, 0x90, 0xbf)
  else if 0xf1 ≤ b && b ≤ 0xf3 then some (3, 0x80, 0xbf)
  else if b = 0xf4 then some (3, 0x80, 0x8f)
  else none

/-- Scan the bytes from an index on. With `pending` more bytes owed to the sequence that began at
`start`, the next one must lie between `low` and `high`. -/
def scan : (start index pending : Nat) → (low high : UInt8) → List UInt8 → Option Fault
  | start, _, pending, _, _, [] => if pending = 0 then none else some (.incomplete start)
  | start, index, pending, low, high, b :: rest =>
    if pending = 0 then
      if b < 0x80 then scan (index + 1) (index + 1) 0 0 0 rest
      else
        match lead? b with
        | none => some (.invalid 1 index)
        | some (owed, low, high) => scan index (index + 1) owed low high rest
    else if low ≤ b && b ≤ high then scan start (index + 1) (pending - 1) 0x80 0xbf rest
    else some (.invalid (index - start) start)

/-- The first fault of bytes that are not UTF-8. -/
def fault? (bytes : ByteArray) : Option Fault :=
  scan 0 0 0 0 0 bytes.toList

/-- A fault in words. -/
def Fault.message : Fault → String
  | .invalid length index => s!"invalid utf-8 sequence of {length} bytes from index {index}"
  | .incomplete index => s!"incomplete utf-8 byte sequence from index {index}"

/-- The text of bytes, or the fault that keeps them from being one. -/
def decode (bytes : ByteArray) : Except Fault String :=
  match String.fromUTF8? bytes with
  | some text => .ok text
  | none => .error ((fault? bytes).getD (.incomplete 0))

/-- The bytes with every broken sequence replaced by U+FFFD. The fuel is the number of bytes. -/
def mendFrom : (fuel : Nat) → List UInt8 → List UInt8
  | 0, bytes => bytes
  | fuel + 1, bytes =>
    match scan 0 0 0 0 0 bytes with
    | none => bytes
    | some (.incomplete index) => bytes.take index ++ [0xef, 0xbf, 0xbd]
    | some (.invalid length index) =>
      bytes.take index ++ [0xef, 0xbf, 0xbd] ++ mendFrom fuel (bytes.drop (index + length))

/-- The text of bytes, with U+FFFD for every sequence that is broken. -/
def decodeLossy (bytes : ByteArray) : String :=
  match String.fromUTF8? bytes with
  | some text => text
  | none =>
    (String.fromUTF8? ⟨(mendFrom (bytes.size + 1) bytes.toList).toArray⟩).getD ""

end Utf8

end LiveTemplates
