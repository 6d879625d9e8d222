import LiveTemplates.Text.Blank

set_option autoImplicit false

/-! # Source encodings

Sources are read as UTF-8, under either spelling of its name and in any mixture of capitals. -/

namespace LiveTemplates

namespace Encoding

/-- Whether sources in an encoding can be read. -/
def isSupported (encoding : String) : Bool :=
  ["utf-8", "utf8"].contains (Text.lowerAscii encoding)

end Encoding

end LiveTemplates
