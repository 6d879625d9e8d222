import LiveTemplates.Text.Blank

set_option autoImplicit false

/-! # Paths as texts

A path is a text with slashes between its parts. Joining keeps both texts as they are, so the
origin of a template shows the root just as the configuration spells it. -/

namespace LiveTemplates

namespace Path

/-- Whether a path starts at the root of the file system. -/
def isAbsolute (path : String) : Bool :=
  path.toList.head? = some '/'

/-- The parts between slashes, empty ones included. -/
def parts (path : String) : List String :=
  Text.splitAt (· = '/') path

/-- Whether a part leads to something else than the folder it stands in. -/
def isStep (part : String) : Bool :=
  part ≠ "" && part ≠ "."

/-- The parts that lead somewhere. -/
def components (path : String) : List String :=
  (parts path).filter isStep

/-- A path below another one; an absolute path stands for itself. -/
def join (root path : String) : String :=
  if isAbsolute path then path
  else if root.isEmpty || root.toList.getLast? = some '/' then root ++ path
  else root ++ "/" ++ path

/-- A path that begins below some folder, whatever slashes it begins with. -/
def relative (path : String) : String :=
  String.ofList (path.toList.dropWhile (· = '/'))

/-- The text of a path up to its last part, without the slash between them. -/
def parent (path : String) : String :=
  let before := path.toList.reverse.dropWhile (· ≠ '/')
  let kept := (before.dropWhile (· = '/')).reverse
  if kept.isEmpty && !before.isEmpty then "/" else String.ofList kept

/-- The last part of a path, unless it leads upwards. -/
def fileName? (path : String) : Option String :=
  match (components path).getLast? with
  | some ".." => none
  | name => name

/-- What stands after the last dot of the last part, if there is something before that dot. -/
def extension? (path : String) : Option String :=
  (fileName? path).bind fun name =>
    let after := (name.toList.reverse.takeWhile (· ≠ '.')).reverse
    if name.length ≤ after.length + 1 then none else some (String.ofList after)

end Path

end LiveTemplates
