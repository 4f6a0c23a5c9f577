import RpcScaffold.Text.Blank

/-! # Writing code with indentation

Text is written by a program of steps. A step can take an indentation guard, and the level of
indentation is the number of guards that are held. A block holds one for its body and drops all
guards that its body took, also when the body fails.
-/

namespace RpcScaffold.Code

open Text

structure Writer where
  text : String := ""
  level : Nat := 0
  /-- Nothing but blank text stands on the current line. -/
  fresh : Bool := true
  deriving Repr, DecidableEq, Inhabited

inductive Step
  | write (text : String)
  | line (text : String)
  | blank
  /-- Every line of the text as a line of module documentation. -/
  | moduleDoc (text : String)
  | indent
  /-- Drops the newest guard of this list of steps, if it holds one. -/
  | dedent
  /-- The header and an opening brace, the body, a closing brace. -/
  | block (header : String) (body : List Step)
  /-- The same with the opening brace on a line of its own. -/
  | braced (body : List Step)
  | fail
  deriving Repr, Inhabited

def openBrace : String := "\x7b"

def closeBrace : String := "\x7d"

/-- `names` in braces. -/
def inBraces (names : String) : String := openBrace ++ names ++ closeBrace

def isBlankText (s : String) : Bool := s.toList.all isBlank

def indentation (level : Nat) : String := String.ofList (List.replicate (4 * level) ' ')

namespace Writer

/-- The first visible text of a line is indented. -/
def write (w : Writer) (s : String) : Writer :=
  if w.fresh && !isBlankText s then
    { w with text := w.text ++ indentation w.level ++ s, fresh := false }
  else { w with text := w.text ++ s }

def newline (w : Writer) : Writer := { w with text := w.text ++ "\n", fresh := true }

def line (w : Writer) (s : String) : Writer := (w.write s).newline

def docLine (w : Writer) (s : List Char) : Writer :=
  if s.isEmpty then w.line "//!" else w.line ("//! " ++ String.ofList s)

def moduleDoc (w : Writer) (s : String) : Writer := (lines s.toList).foldl docLine w

def hold (w : Writer) : Writer := { w with level := w.level + 1 }

def drop (w : Writer) (guards : Nat) : Writer := { w with level := w.level - guards }

end Writer

/-- The writer, the guards that the current list of steps holds, and whether all went well. -/
structure State where
  writer : Writer
  guards : Nat
  ok : Bool

mutual

def Step.run (w : Writer) (guards : Nat) : Step → State
  | .write s => ⟨w.write s, guards, true⟩
  | .line s => ⟨w.line s, guards, true⟩
  | .blank => ⟨w.newline, guards, true⟩
  | .moduleDoc s => ⟨w.moduleDoc s, guards, true⟩
  | .indent => ⟨w.hold, guards + 1, true⟩
  | .dedent => if guards = 0 then ⟨w, 0, true⟩ else ⟨w.drop 1, guards - 1, true⟩
  | .block header body =>
    let r := runAll (w.line (header ++ " " ++ openBrace)).hold 0 body
    finish (r.writer.drop (r.guards + 1)) guards r.ok
  | .braced body =>
    let r := runAll (w.line openBrace).hold 0 body
    finish (r.writer.drop (r.guards + 1)) guards r.ok
  | .fail => ⟨w, guards, false⟩

/-- Runs the steps up to the first that fails. -/
def runAll (w : Writer) (guards : Nat) : List Step → State
  | [] => ⟨w, guards, true⟩
  | s :: rest =>
    let r := s.run w guards
    if r.ok then runAll r.writer r.guards rest else r

/-- The end of a block whose body did or did not succeed. -/
def finish (w : Writer) (guards : Nat) (ok : Bool) : State :=
  if ok then ⟨w.line closeBrace, guards, true⟩ else ⟨w, guards, false⟩

end

/-- The text of steps none of which fails. -/
def render (steps : List Step) : String := (runAll {} 0 steps).writer.text

/-! ## Files -/

/-- Stands at the head of every generated file. -/
def notice : String := "Generated by protowiz. Do not edit."

/-- What the file holds, and the notice. -/
def fileDoc (summary : String) : Step := .moduleDoc (summary ++ "\n\n" ++ notice)

/-- An import of `path`. -/
def importOf (path : String) : Step := .line ("use " ++ path ++ ";")

/-- An import of several names from a module. -/
def importAll (module : String) (names : List String) : Step :=
  importOf (module ++ "::" ++ inBraces (", ".intercalate names))

def moduleLine (module : String) : Step := .line ("pub mod " ++ module ++ ";")

end RpcScaffold.Code
