import RpcScaffold.CommandLine.Commands

/-! # The command line

Programs over files run on the disk here, and nothing is decided.
-/

namespace RpcScaffold.Disk

/-! ## Faults -/

/-- Some operations give the number of their fault negated. -/
def faultOfCode (code : UInt32) (text : String) : FileFault :=
  let code := if code < 0x80000000 then code else -code
  match code.toNat with
  | 2 => .notFound
  | 16 => .busy
  | 17 => .exists
  | 20 => .notDirectory
  | 21 => .isDirectory
  | 36 => .nameTooLong
  | 40 => .tooManyLinks
  | _ => .other s!"{text} (os error {code})"

def fault (e : IO.Error) : FileFault :=
  match e with
  | .interrupted _ code text | .noFileOrDirectory _ code text | .alreadyExists _ code text
  | .invalidArgument _ code text | .permissionDenied _ code text | .resourceExhausted _ code text
  | .inappropriateType _ code text | .noSuchThing _ code text | .otherError code text
  | .resourceBusy code text | .resourceVanished code text | .unsupportedOperation code text
  | .hardwareFault code text | .unsatisfiedConstraints code text | .illegalOperation code text
  | .protocolError code text | .timeExpired code text => faultOfCode code text
  | .unexpectedEof => .other "unexpected end of file"
  | .userError text => .other text

def attempt {α : Type} (path : String) (action : IO α) : IO (Except FileFault α) := do
  if path.toList.contains '\x00' then pure (.error .nul)
  else
    try
      let a ← action
      pure (.ok a)
    catch e => pure (.error (fault e))

/-! ## Looking around -/

def kindOf : IO.FS.FileType → FileKind
  | .dir => .directory
  | .symlink => .link
  | .file | .other => .file

/-- The kind of an entry, behind links or not. Nothing is said of a path that cannot be looked
at. -/
def kind? (follow : Bool) (path : String) : IO (Option FileKind) := do
  let entry : IO.FS.DirEntry := ⟨path, ""⟩
  match ← attempt path (if follow then entry.root.metadata else entry.root.symlinkMetadata) with
  | .ok data => pure (some (kindOf data.type))
  | .error _ => pure none

/-- The names in a directory, sorted. -/
def names (path : String) : IO (List String) := do
  let entry : IO.FS.DirEntry := ⟨path, ""⟩
  let entries ← entry.root.readDir
  pure ((entries.toList.map (·.fileName)).mergeSort)

/-- Longer paths are refused by the system, so no directory is deeper. -/
def maxDepth : Nat := 4096

/-- What stands below a directory. One that cannot be listed seems empty: whoever opens it is told
why. -/
def below : Nat → List String → String → IO (List Found)
  | 0, _, _ => pure []
  | depth + 1, above, path => do
    let found := ((← attempt path (names path)).toOption).getD []
    let inside ← found.mapM fun name => do
      let way := above ++ [name]
      let place := Path.join path name
      match (← kind? false place).getD .file with
      | .directory =>
        let rest ← below depth way place
        pure (({ names := way, path := place, kind := .directory } : Found) :: rest)
      | kind => pure [({ names := way, path := place, kind } : Found)]
    pure inside.flatten

/-- A start that is a link is listed as one, but what it leads to is walked. -/
def walk (path : String) : IO (List Found) := do
  let entry : IO.FS.DirEntry := ⟨path, ""⟩
  let data ← entry.root.symlinkMetadata
  let start : Found := { names := [], path, kind := kindOf data.type }
  if (← kind? true path) == some .directory then
    let _ ← names path
    pure (start :: (← below maxDepth [] path))
  else pure [start]

/-! ## Programs -/

def perform : (op : FileOp) → IO op.Answer
  | .kind path => kind? true path
  | .walk path => do
    match ← attempt path (walk path) with
    | .ok found => pure (.ok found)
    | .error fault => pure (.error (.walk path fault))
  | .openDirectory path => attempt path do
    let _ ← names path
    pure ()
  | .read path => attempt path do
    let file ← IO.FS.Handle.mk path .read
    file.readBinToEnd
  | .write path content => attempt path (IO.FS.writeBinFile path content)
  | .makeDirectory path => attempt path (IO.FS.createDir path)
  | .rename source target => attempt target (IO.FS.rename source target)
  | .remove path => attempt path (IO.FS.removeFile path)

def run {α : Type} : FileProgram α → IO α
  | .done a => pure a
  | .step op next => do
    let answer ← perform op
    run (next answer)

end RpcScaffold.Disk

def main (arguments : List String) : IO UInt32 := do
  let outcome ← RpcScaffold.Disk.run (RpcScaffold.CommandLine.run arguments)
  IO.print outcome.stdout
  IO.eprint outcome.stderr
  pure (UInt32.ofNat outcome.code)
