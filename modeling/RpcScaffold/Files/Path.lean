import RpcScaffold.Text.Split

/-! # Path names

A path name is a text with `/` between its parts. A backslash is an ordinary character.
-/

namespace RpcScaffold.Path

open Text

def pieces (path : String) : List String :=
  (split (· == '/') path.toList).map String.ofList

/-- The parts that name something: empty parts and single dots do not. -/
def parts (path : String) : List String := (pieces path).filter fun p => p != "" && p != "."

def isAbsolute (path : String) : Bool := path.toList.head? == some '/'

/-- A relative path that stays below the directory it is joined to. A dot may stand inside it but
not at its start. -/
def staysInside (path : String) : Bool :=
  match pieces path with
  | [] => false
  | first :: rest => first != "" && first != "." && (first :: rest).all (· != "..")

/-- A directory name and a file name with one `/` between them. -/
def inDirectory (directory file : String) : String :=
  let dir := (directory.toList.reverse.dropWhile (· == '/')).reverse
  if dir.isEmpty then file else String.ofList dir ++ "/" ++ file

/-! ## The directory and the last name of a path -/

/-- The path `path`, seen from the directory `directory`. -/
def join (directory path : String) : String :=
  if isAbsolute path || directory.isEmpty then path
  else if directory.toList.getLast? == some '/' then directory ++ path
  else directory ++ "/" ++ path

/-- Pieces from the last to the first, without those at the end that name nothing. The first piece
of a path always stays: it is a dot, or stands for the root. -/
def trimPieces : List String → List String
  | [] => []
  | [first] => [first]
  | p :: rest => if p = "" ∨ p = "." then trimPieces rest else p :: rest

/-- The path of pieces from the last to the first, of which at least one was taken away. -/
def ofPieces (reversed : List String) : String :=
  if reversed = [""] then "/" else "/".intercalate reversed.reverse

/-- The path without its last name. The root and the empty path have none. -/
def parent? (path : String) : Option String :=
  match trimPieces (pieces path).reverse with
  | [] | [""] => none
  | [_] => some ""
  | _ :: rest => some (ofPieces (trimPieces rest))

/-- The last name, if the path ends in one. -/
def fileName? (path : String) : Option String :=
  match trimPieces (pieces path).reverse with
  | [] => none
  | last :: _ => if last = "" ∨ last = "." ∨ last = ".." then none else some last

/-- At most `n` paths: the path, its parent, and so on up to the root or the last relative name. -/
def ancestorsUpTo : Nat → String → List String
  | 0, _ => []
  | n + 1, path =>
    match parent? path with
    | none => []
    | some up => path :: ancestorsUpTo n up

/-- A path has no more ancestors than pieces. -/
def ancestors (path : String) : List String := ancestorsUpTo (pieces path).length path

/-- The name beside `path` under which its file is written before it is complete. -/
def temporary (path : String) : String :=
  let name := (fileName? path).getD "" ++ ".tmp"
  match fileName? path, parent? path with
  | some _, some directory => join directory name
  | _, _ => join path name

end RpcScaffold.Path
