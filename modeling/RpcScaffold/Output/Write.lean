import RpcScaffold.Output.Plan
import RpcScaffold.Text.ByteSize

/-! # Writing a bundle

The old manifest goes first and the new one comes last, so a tree with a manifest is complete. In
between the reset directories are emptied of files, and every artifact is written. A file is written
under a temporary name and renamed, so it is never there by half.
-/

namespace RpcScaffold

structure WriteSummary where
  written : Nat := 0
  removed : Nat := 0
  /-- The size of what was written, without the manifest. -/
  bytes : Nat := 0
  deriving Repr, DecidableEq, Inhabited

def WriteSummary.text (s : WriteSummary) : String :=
  s!"{s.written} files written ({Text.byteSize s.bytes}), {s.removed} stale files removed"

namespace Output

open FileProgram FileAction

/-! ## One file -/

/-- Makes the first of the directories, of which each stands in the next. -/
def makeFirst : List String → FileProgram (Except FileFault Unit)
  | [] => pure (.ok ())
  | path :: parents => do
    match ← makeDirectory path with
    | .ok () => pure (.ok ())
    | .error .notFound =>
      match ← makeFirst parents with
      | .ok () => orPresent path (← makeDirectory path)
      | .error fault => pure (.error fault)
    | .error fault => orPresent path (.error fault)
where
  /-- It is as good if the directory is there. -/
  orPresent (path : String) (result : Except FileFault Unit) :
      FileProgram (Except FileFault Unit) := do
    match result with
    | .ok () => pure (.ok ())
    | .error fault => pure (if ← isDirectory path then .ok () else .error fault)

def makeDirectories (path : String) : FileProgram (Except FileFault Unit) :=
  makeFirst (Path.ancestors path)

def writeFile (path text : String) : FileAction Unit := do
  if let some directory := Path.parent? path then
    orFailAt directory (makeDirectories directory)
  let temporary := Path.temporary path
  orFailAt temporary (write temporary text.toUTF8)
  orFailAt path (rename temporary path)

/-! ## Directories -/

/-- Removes a file or a link that a walk through `directory` found, and says how many that were. -/
def clearFound (directory : String) (f : Found) : FileAction Nat := do
  if f.kind == .directory then
    -- Below a link that was removed there are no directories left.
    orFailAt directory (enter f)
    pure 0
  else
    orFailAt f.path (remove f.path)
    pure 1

/-- Removes all files below the directory, but no directories. -/
def clearFiles (directory : String) : FileAction Nat := do
  if (← look (kind directory)).isNone then pure 0
  else
    let found ← orFailAt directory (walk directory)
    found.foldlM (fun n f => do pure (n + (← clearFound directory f))) 0

/-! ## All of it -/

def carryOut (p : WritePlan) : FileAction WriteSummary := do
  if ← look (isFile p.manifestPath) then orFailAt p.manifestPath (remove p.manifestPath)
  let removed ← p.resets.foldlM (fun n directory => do pure (n + (← clearFiles directory))) 0
  p.targets.forM fun t => writeFile t.1 t.2
  writeFile p.manifestPath p.manifest
  pure { written := p.targets.length, removed, bytes := Text.totalSize (p.targets.map (·.2)) }

def writeBundle (root : String) (b : Bundle) (l : Layout) (package : String) :
    FileAction WriteSummary := do
  carryOut (← WritePlan.ofBundle root b l package)

end Output

end RpcScaffold
