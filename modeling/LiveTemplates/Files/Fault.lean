import LiveTemplates.Text.Utf8

set_option autoImplicit false

/-! # Why a file cannot be read -/

namespace LiveTemplates

/-- A fault of the file system, or of the bytes of a file. -/
inductive FileFault where
  | notFound
  | notDirectory
  | isDirectory
  | nameTooLong
  | nulInName
  | notText (fault : Utf8.Fault)
  deriving DecidableEq

/-- A fault in words. -/
def FileFault.message : FileFault → String
  | notFound => "No such file or directory (os error 2)"
  | notDirectory => "Not a directory (os error 20)"
  | isDirectory => "Is a directory (os error 21)"
  | nameTooLong => "File name too long (os error 36)"
  | nulInName => "file name contained an unexpected NUL byte"
  | notText fault => "not valid UTF-8: " ++ fault.message

end LiveTemplates
