/-! # What a command prints -/

namespace RpcScaffold.CommandLine

structure Outcome where
  code : Nat
  stdout : String
  stderr : String
  deriving Repr, DecidableEq, Inhabited

/-! ## Status lines -/

/-- The label right-aligned to ten columns. A longer one stays whole. -/
def statusLine (label message : String) : String :=
  String.ofList (List.replicate (10 - label.length) ' ') ++ label ++ " " ++ message ++ "\n"

/-! ## Failures -/

structure CommandFailure where
  message : String
  /-- The faults behind it, the nearest first. -/
  causes : List String := []
  deriving Repr, DecidableEq, Inhabited

/-- The text with `gap` at the start of every line after the first. -/
def indentRest (gap text : String) : String :=
  String.ofList (text.toList.flatMap fun c => if c = '\n' then '\n' :: gap.toList else [c])

def plainCause (cause : String) : String := "    " ++ indentRest "    " cause

/-- A cause with its number, right-aligned to five columns. -/
def numberedCause (n : Nat) (cause : String) : String :=
  let number := toString n
  String.ofList (List.replicate (5 - number.length) ' ') ++ number ++ ": " ++
    indentRest "       " cause

def causeLines : List String → List String
  | [] => []
  | [cause] => [plainCause cause]
  | causes => causes.zipIdx.map fun c => numberedCause c.2 c.1

namespace CommandFailure

def text (f : CommandFailure) : String :=
  let causes :=
    if f.causes.isEmpty then [] else "" :: "Caused by:" :: causeLines f.causes
  "Error: " ++ "\n".intercalate (f.message :: causes) ++ "\n"

/-- The failure as a fault behind another. -/
def within (f : CommandFailure) (message : String) : CommandFailure :=
  { message, causes := f.message :: f.causes }

def outcome (f : CommandFailure) : Outcome := { code := 1, stdout := "", stderr := f.text }

end CommandFailure

end RpcScaffold.CommandLine
