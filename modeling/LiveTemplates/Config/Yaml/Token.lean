set_option autoImplicit false

/-! # The tokens of YAML

What a source is made of: signs, scalars, properties of nodes, directives, and the limits of blocks,
which indentation tells and no sign. -/

namespace LiveTemplates

namespace Yaml

/-- A token. -/
inductive Token where
  /-- A directive that tells the version. -/
  | version
  /-- A directive that gives a handle of tags its meaning. -/
  | tagDirective (handle meaning : String)
  | documentStart
  | documentEnd
  | blockSequenceStart
  | blockMappingStart
  | blockEnd
  | flowSequenceStart
  | flowSequenceEnd
  | flowMappingStart
  | flowMappingEnd
  | blockEntry
  | flowEntry
  | key
  | value
  | alias (name : String)
  | anchor (name : String)
  | tag (handle suffix : String)
  | scalar (isPlain : Bool) (text : String)
  | sourceEnd
  deriving DecidableEq, Inhabited

/-! ## Characters -/

/-- A space or a tab. -/
def isBlank (c : Char) : Bool :=
  c = ' ' || c = '\t'

/-- The end of a line. -/
def isBreak (c : Char) : Bool :=
  c = '\n' || c = '\r'

/-- The character that stands for the end of the source. -/
def sourceEndChar : Char := '\x00'

/-- The end of a line or of the source. -/
def endsLine (c : Char) : Bool :=
  isBreak c || c = sourceEndChar

/-- A blank, or the end of a line or of the source. -/
def endsWord (c : Char) : Bool :=
  isBlank c || endsLine c

/-- A character that has a meaning in flow collections. -/
def isFlowSign (c : Char) : Bool :=
  [',', '[', ']', '\x7b', '\x7d'].contains c

/-- A character of the name of an anchor. -/
def isAnchorChar (c : Char) : Bool :=
  !endsWord c && !isFlowSign c && c.toNat ≠ 0xfeff

/-- A character of a handle or of the name of a directive. -/
def isHandleChar (c : Char) : Bool :=
  c.isAlphanum || c = '_' || c = '-'

/-- A character of an address. -/
def isAddressChar (c : Char) : Bool :=
  c.isAlphanum || "-#;/?:@&=+$,_.!~*'()[]%".toList.contains c

/-- A character of a tag. -/
def isTagChar (c : Char) : Bool :=
  isAddressChar c && !isFlowSign c && c ≠ '!'

end Yaml

end LiveTemplates
