/-! # What can go wrong with a file -/

namespace RpcScaffold

inductive FileFault
  | notFound
  | busy
  | exists
  | notDirectory
  | isDirectory
  | nameTooLong
  | tooManyLinks
  /-- A NUL character in a path. -/
  | nul
  | notUtf8
  | noSourceDirectory
  /-- The fault stopped a walk at the path. -/
  | walk (path : String) (cause : FileFault)
  | other (text : String)
  deriving Repr, DecidableEq, Inhabited

namespace FileFault

def text : FileFault → String
  | notFound => "No such file or directory (os error 2)"
  | busy => "Device or resource busy (os error 16)"
  | .exists => "File exists (os error 17)"
  | notDirectory => "Not a directory (os error 20)"
  | isDirectory => "Is a directory (os error 21)"
  | nameTooLong => "File name too long (os error 36)"
  | tooManyLinks => "Too many levels of symbolic links (os error 40)"
  | nul => "file name contained an unexpected NUL byte"
  | notUtf8 => "stream did not contain valid UTF-8"
  | noSourceDirectory => "source directory not found"
  | walk path cause => "IO error for operation on " ++ path ++ ": " ++ cause.text
  | other text => text

/-- The texts of the faults behind the fault. -/
def causes : FileFault → List String
  | walk _ cause => cause.text :: cause.causes
  | _ => []

end FileFault

end RpcScaffold
