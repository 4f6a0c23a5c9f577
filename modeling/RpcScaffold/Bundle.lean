import RpcScaffold.Failure
import RpcScaffold.NameMap
import RpcScaffold.Text.ByteSize

/-! # Staged artifacts

Every file of a run is staged in memory first. Nothing is written before all of them are there.
-/

namespace RpcScaffold

inductive ArtifactKind
  | schema
  | converter
  | converterIndex
  | adapter
  | adapterIndex
  | proxy
  | proxyIndex
  | instructions
  | copiedSource
  deriving Repr, DecidableEq, Inhabited

namespace ArtifactKind

def text : ArtifactKind → String
  | schema => "schema"
  | converter => "converter"
  | converterIndex => "converter_index"
  | adapter => "adapter"
  | adapterIndex => "adapter_index"
  | proxy => "proxy"
  | proxyIndex => "proxy_index"
  | instructions => "instructions"
  | copiedSource => "copied_source"

def all : List ArtifactKind :=
  [schema, converter, converterIndex, adapter, adapterIndex, proxy, proxyIndex, instructions,
    copiedSource]

def ofText? (s : String) : Option ArtifactKind := all.find? (·.text == s)

end ArtifactKind

structure Artifact where
  kind : ArtifactKind
  text : String
  deriving Repr, DecidableEq, Inhabited

/-- Artifacts by relative path, in the order of the paths. -/
structure Bundle where
  artifacts : NameMap Artifact := {}
  deriving Repr, DecidableEq, Inhabited

namespace Bundle

variable (b : Bundle)

/-- Two artifacts may not share a path. -/
def insert (path : String) (kind : ArtifactKind) (text : String) : Except Failure Bundle :=
  if b.artifacts.contains path then .error (.invariant s!"two artifacts staged at {path}")
  else .ok ⟨b.artifacts.insert path ⟨kind, text⟩⟩

def get? (path : String) : Option Artifact := b.artifacts.get? path

def toList : List (String × Artifact) := b.artifacts.entries

def paths : List String := b.artifacts.names

def pathsOf (kind : ArtifactKind) : List String :=
  (b.toList.filter (·.2.kind == kind)).map (·.1)

def count (kind : ArtifactKind) : Nat := (b.pathsOf kind).length

def size : Nat := b.artifacts.size

def isEmpty : Bool := b.artifacts.isEmpty

/-- The size of all texts in UTF-8. -/
def totalBytes : Nat := Text.totalSize (b.toList.map (·.2.text))

end Bundle

end RpcScaffold
