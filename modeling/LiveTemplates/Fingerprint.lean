set_option autoImplicit false

/-! # Fingerprints

A fingerprint is a mark of the state of a source: two different marks mean that the source has
changed, and of two marks of one source the larger is the newer. Files are marked by their
modification time in nanoseconds since the epoch, which is kept modulo `2 ^ 64`. -/

namespace LiveTemplates

/-- A mark of the state of a source. -/
structure Fingerprint where
  value : UInt64
  deriving DecidableEq, Inhabited

/-- A moment in time, in nanoseconds since the epoch, which may be negative. -/
structure Moment where
  nanoseconds : Int
  deriving DecidableEq, Inhabited

namespace Moment

/-- The moment some seconds and nanoseconds after the epoch. -/
def ofSeconds (seconds nanoseconds : Int) : Moment :=
  ⟨seconds * 1000000000 + nanoseconds⟩

end Moment

namespace Fingerprint

/-- The mark of a file by its modification time; times before the epoch count as the epoch. -/
def ofModified (time : Moment) : Fingerprint :=
  ⟨UInt64.ofNat time.nanoseconds.toNat⟩

/-- Lower case hexadecimal digits. -/
def text (fingerprint : Fingerprint) : String :=
  String.ofList (Nat.toDigits 16 fingerprint.value.toNat)

end Fingerprint

end LiveTemplates
