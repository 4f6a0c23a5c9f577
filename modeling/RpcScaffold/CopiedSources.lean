import RpcScaffold.Bundle
import RpcScaffold.Files.Failure
import RpcScaffold.SourceText

/-! # Collecting sources to copy -/

namespace RpcScaffold.CopiedSources

open FileProgram FileAction

/-- The name ends in `.rs` and is more than that. -/
def isSourceName (name : String) : Bool :=
  name != ".rs" && ['.', 'r', 's'].isSuffixOf name.toList

/-- A file itself, no link to one. -/
def isSource (f : Found) : Bool := f.kind == .file && f.names.getLast?.any isSourceName

def readText (path : String) : FileAction String :=
  orFailAt path do
    match ← read path with
    | .error fault => pure (.error fault)
    | .ok content =>
      match String.fromUTF8? content with
      | some text => pure (.ok text)
      | none => pure (.error .notUtf8)

/-- The bundle with the source, under its name below `target`. -/
def stage (target : String) (b : Bundle) (f : Found) : FileAction Bundle := do
  let text ← readText f.path
  let copied : Except Failure Bundle := do
    let text ← SourceText.prepare text SourceText.sizeLimit
    b.insert (Path.inDirectory target ("/".intercalate f.names)) .copiedSource text
  ExceptT.mk (pure (copied.mapError .generation))

/-- Stages the sources up to the first failure. What was staged before it stays. -/
def stageAll (target : String) (b : Bundle) (count : Nat) :
    List Found → FileProgram (Except FileFailure Nat × Bundle)
  | [] => pure (.ok count, b)
  | f :: rest => do
    if f.kind == .directory then
      match ← enter f with
      | .ok () => stageAll target b count rest
      | .error fault => pure (.error (.file f.path fault), b)
    else if isSource f then
      match ← (stage target b f).run with
      | .ok next => stageAll target next (count + 1) rest
      | .error failure => pure (.error failure, b)
    else stageAll target b count rest

/-- Stages every source below the directory, and says how many there are. -/
def collect (directory target : String) (b : Bundle) :
    FileProgram (Except FileFailure Nat × Bundle) := do
  if ← isDirectory directory then
    match ← walk directory with
    | .ok found => stageAll target b 0 found
    | .error fault => pure (.error (.file directory fault), b)
  else pure (.error (.file directory .noSourceDirectory), b)

end RpcScaffold.CopiedSources
