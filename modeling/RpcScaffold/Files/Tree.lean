import RpcScaffold.Files.Node

/-! # File trees in memory

Programs run on a tree just as they run on a disk: links are followed, and each operation has the
faults it would have there.
-/

namespace RpcScaffold

structure FileTree where
  /-- What stands in the root, which is a directory. -/
  entries : List (String × FileNode) := []
  /-- Where a path starts that does not start at the root. -/
  start : Place := []
  deriving Inhabited

namespace FileTree

variable (t : FileTree)

/-! ## Nodes -/

def root : FileNode := .directory t.entries

def get? (place : Place) : Option FileNode := t.root.at? place

/-- Changes what stands at the place. The root stays. -/
def alter (change : Option FileNode → Option FileNode) : Place → FileTree
  | [] => t
  | name :: rest =>
    { t with
      entries :=
        FileNode.setEntry name (FileNode.alter change rest (t.entries.lookup name)) t.entries }

def insert (place : Place) (node : FileNode) : FileTree := t.alter (fun _ => some node) place

def erase (place : Place) : FileTree := t.alter (fun _ => none) place

/-! ## Paths -/

inductive Spot
  | taken (place : Place) (node : FileNode)
  /-- Nothing of that name stands in the directory. -/
  | free (directory : Place) (name : String)

/-- The longest name, in bytes. -/
def maxName : Nat := 255

/-- The longest path, in bytes, with the byte that ends it. -/
def maxPath : Nat := 4096

/-- How many links a path may lead through. -/
def maxLinks : Nat := 40

/-- What a path is followed for. -/
inductive Aim
  /-- The entry that has the path, which may be a link. -/
  | entry
  /-- What a link at the end leads to. -/
  | target
  /-- The same for a file that is made if it is not there. A name with a `/` after it is no
  file's. -/
  | creation
  deriving Repr, DecidableEq

/-- Goes from the directory `place` along the pieces of a path. At a link `through` goes on, from the
directory where the link starts and along all that is still ahead. -/
def tread (aim : Aim) (through : Place → List String → Except FileFault Spot) (place : Place) :
    List String → Except FileFault Spot
  | [] => .ok (.taken place ((t.get? place).getD t.root))
  | piece :: rest =>
    if piece = "" ∨ piece = "." then tread aim through place rest
    else if piece = ".." then tread aim through place.dropLast rest
    else if aim = .creation ∧ rest ≠ [] ∧ rest.all (· = "") then .error .isDirectory
    else if maxName < piece.utf8ByteSize then .error .nameTooLong
    else
      let next := place ++ [piece]
      match t.get? next with
      | none => if rest = [] then .ok (.free place piece) else .error .notFound
      | some (.directory _) => tread aim through next rest
      | some (.file content) =>
        if rest = [] then .ok (.taken next (.file content)) else .error .notDirectory
      | some (.link target) =>
        if rest = [] ∧ aim = .entry then .ok (.taken next (.link target))
        else through (if Path.isAbsolute target then [] else place) (Path.pieces target ++ rest)

/-- The same, and along what links lead to. `links` is how many of them may still be followed. -/
def seek (aim : Aim) (links : Nat) : Place → List String → Except FileFault Spot :=
  match links with
  | 0 => t.tread aim fun _ _ => .error .tooManyLinks
  | n + 1 => t.tread aim (seek aim n)

/-- The pieces of a path, if it can be followed at all. -/
def piecesOf (path : String) : Except FileFault (List String) :=
  if path = "" then .error .notFound
  else if path.toList.contains '\x00' then .error .nul
  else if maxPath ≤ path.utf8ByteSize then .error .nameTooLong
  else .ok (Path.pieces path)

def follow (aim : Aim) (pieces : List String) : Except FileFault Spot :=
  t.seek aim maxLinks (if pieces.head? = some "" then [] else t.start) pieces

def resolve (aim : Aim) (path : String) : Except FileFault Spot := do
  t.follow aim (← piecesOf path)

/-! ## Operations -/

def kindAt (path : String) : Option FileKind :=
  match t.resolve .target path with
  | .ok (.taken _ node) => some node.kind
  | _ => none

def read (path : String) : Except FileFault ByteArray := do
  match ← t.resolve .target path with
  | .taken _ (.file content) => pure content
  | .taken _ _ => throw .isDirectory
  | .free _ _ => throw .notFound

/-- A start that is a link is listed as one, but what it leads to is walked. -/
def walk (path : String) : Except FileFault (List Found) := do
  let start (kind : FileKind) : Found := ⟨[], path, kind⟩
  let inside (node : FileNode) : List Found :=
    node.descendants.map fun e => ⟨e.1, Path.join path ("/".intercalate e.1), e.2.kind⟩
  match ← t.resolve .entry path with
  | .free _ _ => throw .notFound
  | .taken _ (.link _) =>
    match t.resolve .target path with
    | .ok (.taken _ node) => pure (start .link :: inside node)
    | _ => pure [start .link]
  | .taken _ node => pure (start node.kind :: inside node)

/-- Whether the entries of the directory can be listed. -/
def openDirectory (path : String) : Except FileFault Unit := do
  match ← t.resolve .target path with
  | .taken _ (.directory _) => pure ()
  | .taken _ _ => throw .notDirectory
  | .free _ _ => throw .notFound

def write (path : String) (content : ByteArray) : Except FileFault FileTree := do
  match ← t.resolve .creation path with
  | .taken place (.file _) => pure (t.insert place (.file content))
  | .taken _ _ => throw .isDirectory
  | .free directory name => pure (t.insert (directory ++ [name]) (.file content))

def makeDirectory (path : String) : Except FileFault FileTree := do
  match ← t.resolve .entry path with
  | .taken _ _ => throw .exists
  | .free directory name => pure (t.insert (directory ++ [name]) (.directory []))

def remove (path : String) : Except FileFault FileTree := do
  match ← t.resolve .entry path with
  | .taken _ (.directory _) => throw .isDirectory
  | .taken place _ => pure (t.erase place)
  | .free _ _ => throw .notFound

/-- The place that a file takes under a path of these pieces. One that ends in `/` or in a dot is
none. -/
def targetPlace (pieces : List String) : Except FileFault Place := do
  let named := (pieces.reverse.dropWhile (· == "")).reverse
  let spot ← t.follow .entry named
  let last := named.getLastD ""
  if last = "." ∨ last = ".." then throw .busy
  else if named.length < pieces.length then throw .notDirectory
  else
    match spot with
    | .taken _ (.directory _) => throw .isDirectory
    | .taken place _ => pure place
    | .free directory name => pure (directory ++ [name])

def rename (source target : String) : Except FileFault FileTree := do
  let pieces ← piecesOf target
  match ← t.resolve .entry source with
  | .free _ _ => throw .notFound
  | .taken _ (.directory _) => throw .isDirectory
  | .taken place node => do
    let goal ← t.targetPlace pieces
    pure ((t.erase place).insert goal node)

/-! ## Programs -/

/-- An operation that fails changes nothing. -/
def change (result : Except FileFault FileTree) : Except FileFault Unit × FileTree :=
  match result with
  | .ok next => (.ok (), next)
  | .error fault => (.error fault, t)

/-- The answer to an operation, and the tree after it. -/
def perform : (op : FileOp) → op.Answer × FileTree
  | .kind path => (t.kindAt path, t)
  | .walk path => (t.walk path, t)
  | .openDirectory path => (t.openDirectory path, t)
  | .read path => (t.read path, t)
  | .write path content => t.change (t.write path content)
  | .makeDirectory path => t.change (t.makeDirectory path)
  | .rename source target => t.change (t.rename source target)
  | .remove path => t.change (t.remove path)

end FileTree

/-- The result of a program, and the tree after it. -/
def FileProgram.runOn {α : Type} : FileProgram α → FileTree → α × FileTree
  | done a, t => (a, t)
  | step op next, t =>
    let r := t.perform op
    (next r.1).runOn r.2

end RpcScaffold
