import RpcScaffold.Failure
import RpcScaffold.Files.Program

/-! # Why work with files fails -/

namespace RpcScaffold

inductive FileFailure
  | file (path : String) (fault : FileFault)
  | outside (path : String)
  | generation (f : Failure)
  deriving Repr, DecidableEq, Inhabited

namespace FileFailure

def message : FileFailure → String
  | file path fault => "i/o error at " ++ path ++ ": " ++ fault.text
  | outside path => "artifact path escapes the output root: " ++ path
  | generation f => f.message

/-- The texts of the faults behind the failure. -/
def causes : FileFailure → List String
  | file _ fault => fault.text :: fault.causes
  | outside _ | generation _ => []

end FileFailure

/-- A program that may fail. What it did before stays done. -/
abbrev FileAction := ExceptT FileFailure FileProgram

namespace FileAction

variable {α : Type}

/-- A fault fails the action at the path. -/
def orFailAt (path : String) (p : FileProgram (Except FileFault α)) : FileAction α :=
  ExceptT.mk do
    let r ← p
    pure (r.mapError (.file path))

/-- A look at the files, which has no faults. -/
def look (p : FileProgram α) : FileAction α := ExceptT.lift p

end FileAction

end RpcScaffold
