import LiveTemplates.Fingerprint

set_option autoImplicit false

/-! # Template sources -/

namespace LiveTemplates

/-- Where the text of a source came from. -/
inductive Origin where
  | memory
  | filesystem (path : String)
  | external (path : String)
  deriving DecidableEq, Inhabited

/-- The text of a source at one moment, with the mark of that moment. -/
structure Resource where
  name : String
  content : String
  fingerprint : Fingerprint
  origin : Origin
  deriving DecidableEq, Inhabited

end LiveTemplates
