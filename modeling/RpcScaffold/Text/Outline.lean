import RpcScaffold.Text.Quoted

/-! # Outlines

An outline shows a value with all its parts on one line, for messages about values that have no
text of their own.
-/

namespace RpcScaffold.Text

inductive Outline
  | word (text : String)
  | quote (text : String)
  /-- A name and its parts in parentheses. -/
  | variant (name : String) (parts : List Outline)
  | record (name : String) (fields : List (String × Outline))
  | list (items : List Outline)
  /-- Entries under quoted keys. -/
  | map (entries : List (String × Outline))
  deriving Repr, Inhabited

namespace Outline

def number (n : Nat) : Outline := .word (toString n)

def flag (b : Bool) : Outline := .word (toString b)

/-- What stands between the parts, with `gap` inside the braces. -/
def braced (gap : String) (parts : List String) : String :=
  if parts.isEmpty then "\x7b\x7d" else "\x7b" ++ gap ++ ", ".intercalate parts ++ gap ++ "\x7d"

mutual

def print : Outline → String
  | word text => text
  | quote text => quoted text
  | variant name parts => name ++ "(" ++ ", ".intercalate (printAll parts) ++ ")"
  | record name fields => name ++ " " ++ braced " " (printFields fields)
  | list items => "[" ++ ", ".intercalate (printAll items) ++ "]"
  | map entries => braced "" (printEntries entries)

def printAll : List Outline → List String
  | [] => []
  | o :: rest => o.print :: printAll rest

def printFields : List (String × Outline) → List String
  | [] => []
  | (name, o) :: rest => (name ++ ": " ++ o.print) :: printFields rest

def printEntries : List (String × Outline) → List String
  | [] => []
  | (key, o) :: rest => (quoted key ++ ": " ++ o.print) :: printEntries rest

end

end Outline

end RpcScaffold.Text
