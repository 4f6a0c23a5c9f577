import RpcScaffold.Files.Program
import RpcScaffold.NameMap

/-! # Files, links and directories with what stands in them -/

namespace RpcScaffold

/-- The entries of a directory stand in the order of their names. -/
inductive FileNode
  | file (content : ByteArray)
  | link (target : String)
  | directory (entries : List (String × FileNode))
  deriving Inhabited

/-- The way from a directory to a node, by names. -/
abbrev Place := List String

namespace FileNode

def kind : FileNode → FileKind
  | file _ => .file
  | link _ => .link
  | directory _ => .directory

/-! ## Single nodes -/

def child? (name : String) : FileNode → Option FileNode
  | directory entries => entries.lookup name
  | file _ | link _ => none

def at? : Place → FileNode → Option FileNode
  | [], node => some node
  | name :: rest, node => (node.child? name).bind (at? rest)

/-- The entries with the node under the name, or with nothing of that name. -/
def setEntry (name : String) (node : Option FileNode) (entries : List (String × FileNode)) :
    List (String × FileNode) :=
  match node with
  | some node => insertEntry name node entries
  | none => entries.filter (·.1 != name)

/-- Changes what stands at the place. A way that does not lead through directories changes
nothing. -/
def alter (change : Option FileNode → Option FileNode) : Place → Option FileNode → Option FileNode
  | [], node => change node
  | name :: rest, some (directory entries) =>
    some (directory (setEntry name (alter change rest (entries.lookup name)) entries))
  | _ :: _, node => node

/-! ## All nodes -/

mutual

/-- All that stands below the node with the ways to it. A directory comes before its entries, and
these come by name. -/
def descendants : FileNode → List (Place × FileNode)
  | file _ | link _ => []
  | directory entries => descendantsAmong entries

def descendantsAmong : List (String × FileNode) → List (Place × FileNode)
  | [] => []
  | (name, node) :: rest =>
    ([name], node) :: node.descendants.map (fun e => (name :: e.1, e.2)) ++ descendantsAmong rest

end

end FileNode

end RpcScaffold
