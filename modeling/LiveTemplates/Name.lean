import LiveTemplates.Text.Blank

set_option autoImplicit false

/-! # Template names

A template is asked for under any spelling of its name and kept under the canonical one: a slash
before every segment, and no segment that is empty, `.` or `..`. Slashes and backslashes separate
segments alike; empty segments and `.` count for nothing and `..` takes back the segment before
it. A spelling that takes back more than there is, or that leaves no segment, names nothing. -/

namespace LiveTemplates

namespace Name

/-- Why a spelling is no name. -/
inductive Fault where
  | climbs
  | empty
  deriving DecidableEq, Inhabited

/-- A fault in words. -/
def Fault.message : Fault → String
  | .climbs => "climbs above the template root"
  | .empty => "does not name a resource"

/-- Whether a character separates segments. -/
def isSeparator (c : Char) : Bool :=
  c = '/' || c = '\\'

/-- The segments of a spelling, before anything is left out or taken back. -/
def segments (spelling : String) : List (List Char) :=
  Text.splitAtChars isSeparator spelling.toList

/-- Walk along segments. The ones kept so far come first, the last of them at the head. -/
def walk : (kept : List (List Char)) → List (List Char) → Except Fault (List (List Char))
  | kept, [] => .ok kept
  | kept, segment :: rest =>
    if segment = [] ∨ segment = ['.'] then walk kept rest
    else if segment = ['.', '.'] then
      match kept with
      | [] => .error .climbs
      | _ :: kept => walk kept rest
    else walk (segment :: kept) rest

/-- The text of segments: each with a slash before it. -/
def join (parts : List (List Char)) : String :=
  String.ofList (parts.flatMap ('/' :: ·))

/-- The canonical spelling of a name. -/
def canonical (spelling : String) : Except Fault String :=
  match walk [] (segments spelling) with
  | .error fault => .error fault
  | .ok kept => if kept.isEmpty then .error .empty else .ok (join kept.reverse)

end Name

end LiveTemplates
