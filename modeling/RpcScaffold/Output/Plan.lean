import RpcScaffold.Files.Failure
import RpcScaffold.Manifest
import RpcScaffold.Settings.Basic

/-! # Plans of a write

A plan says where every text goes. It is made without a look at any file, and there is none for a
bundle or a layout with a path that leaves the output root.
-/

namespace RpcScaffold

structure WritePlan where
  /-- The texts of the artifacts by path. -/
  targets : List (String × String)
  manifestPath : String
  manifest : String
  /-- Directories to be emptied of files. -/
  resets : List String
  deriving Repr, DecidableEq, Inhabited

namespace WritePlan

/-- The path below the root, if it stays there. -/
def below (root path : String) : Except FileFailure String :=
  if Path.staysInside path then .ok (Path.join root path) else .error (.outside path)

def ofBundle (root : String) (b : Bundle) (l : Layout) (package : String) :
    Except FileFailure WritePlan := do
  let targets ← b.toList.mapM fun e => do
    let path ← below root e.1
    pure (path, e.2.text)
  let manifestPath ← below root l.manifestFile
  let resets ← l.resetDirs.mapM (below root)
  pure { targets, manifestPath, manifest := (Manifest.ofBundle b package).text, resets }

end WritePlan

end RpcScaffold
