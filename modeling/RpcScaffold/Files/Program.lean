import RpcScaffold.Files.Fault
import RpcScaffold.Files.Path

/-! # Programs over files

A program asks for one primitive operation after the other and goes on from the answers. What the
operations do is not said here, so one program can run on a disk and on a tree in memory, with and
without faults.
-/

namespace RpcScaffold

inductive FileKind
  | file
  | directory
  | link
  deriving Repr, DecidableEq, Inhabited

/-- What a walk comes across. -/
structure Found where
  /-- The way from the start of the walk, by names. -/
  names : List String
  path : String
  /-- The kind of the entry itself: links are not followed. -/
  kind : FileKind
  deriving Repr, DecidableEq, Inhabited

inductive FileOp
  /-- The kind of what stands at the path, behind all links. -/
  | kind (path : String)
  /-- The path and all below it, every directory before its entries and those by name. -/
  | walk (path : String)
  /-- Whether the entries of the directory can be listed. -/
  | openDirectory (path : String)
  | read (path : String)
  | write (path : String) (content : ByteArray)
  | makeDirectory (path : String)
  /-- A file or link takes another path, and the place of what stood there. -/
  | rename (source target : String)
  /-- Removes a file or a link. -/
  | remove (path : String)

def FileOp.Answer : FileOp → Type
  | kind _ => Option FileKind
  | walk _ => Except FileFault (List Found)
  | read _ => Except FileFault ByteArray
  | openDirectory _ | write _ _ | makeDirectory _ | rename _ _ | remove _ => Except FileFault Unit

inductive FileProgram (α : Type)
  | done (result : α)
  | step (op : FileOp) (next : op.Answer → FileProgram α)

namespace FileProgram

variable {α β : Type}

def bind : FileProgram α → (α → FileProgram β) → FileProgram β
  | done a, f => f a
  | step op next, f => step op fun answer => (next answer).bind f

instance : Monad FileProgram where
  pure := done
  bind := bind

/-! ## Single operations -/

def kind (path : String) : FileProgram (Option FileKind) := step (.kind path) done

def isFile (path : String) : FileProgram Bool := do
  let k ← kind path
  pure (k == some .file)

def isDirectory (path : String) : FileProgram Bool := do
  let k ← kind path
  pure (k == some .directory)

def walk (path : String) : FileProgram (Except FileFault (List Found)) := step (.walk path) done

def openDirectory (path : String) : FileProgram (Except FileFault Unit) :=
  step (.openDirectory path) done

def read (path : String) : FileProgram (Except FileFault ByteArray) := step (.read path) done

def write (path : String) (content : ByteArray) : FileProgram (Except FileFault Unit) :=
  step (.write path content) done

def makeDirectory (path : String) : FileProgram (Except FileFault Unit) :=
  step (.makeDirectory path) done

def rename (source target : String) : FileProgram (Except FileFault Unit) :=
  step (.rename source target) done

def remove (path : String) : FileProgram (Except FileFault Unit) := step (.remove path) done

/-- Goes on with a walk in a directory that it found. -/
def enter (f : Found) : FileProgram (Except FileFault Unit) := do
  let r ← openDirectory f.path
  pure (r.mapError (.walk f.path))

end FileProgram

end RpcScaffold
