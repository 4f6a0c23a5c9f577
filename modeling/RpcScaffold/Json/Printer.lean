import RpcScaffold.Json.Basic
import RpcScaffold.Text.Shortest
import RpcScaffold.Text.Split

/-! # Writing JSON -/

namespace RpcScaffold.Json

open Text

/-! ## Leaves -/

/-- Two lower-case hexadecimal digits. -/
def hexByte (n : Nat) : List Char := [Nat.digitChar (n / 16), Nat.digitChar (n % 16)]

/-- Quotes, backslashes and control characters are escaped, and nothing else. -/
def stringChar (c : Char) : List Char :=
  match c with
  | '"' => ['\\', '"']
  | '\\' => ['\\', '\\']
  | '\x08' => ['\\', 'b']
  | '\x0c' => ['\\', 'f']
  | '\n' => ['\\', 'n']
  | '\r' => ['\\', 'r']
  | '\t' => ['\\', 't']
  | _ => if c.toNat < 0x20 then ['\\', 'u', '0', '0'] ++ hexByte c.toNat else [c]

def stringText (s : String) : List Char := '"' :: s.toList.flatMap stringChar ++ ['"']

def numberText : Number → List Char
  | .nat n => Nat.toDigits 10 n
  | .neg n => '-' :: Nat.toDigits 10 n
  | .real bits => (doubleText bits).toList

def boolText (b : Bool) : List Char := (if b then "true" else "false").toList

/-! ## On one line, without spaces -/

mutual

def compact : Json → List Char
  | null => "null".toList
  | bool b => boolText b
  | number n => numberText n
  | string s => stringText s
  | array items => '[' :: compactItems items ++ [']']
  | object members => '\x7b' :: compactMembers members ++ ['\x7d']

def compactItems : List Json → List Char
  | [] => []
  | [v] => compact v
  | v :: rest => compact v ++ ',' :: compactItems rest

def compactMembers : List (String × Json) → List Char
  | [] => []
  | [(k, v)] => stringText k ++ ':' :: compact v
  | (k, v) :: rest => stringText k ++ ':' :: compact v ++ ',' :: compactMembers rest

end

/-! ## One item a line, with two spaces for each level -/

def lineAt (level : Nat) : List Char := '\n' :: List.replicate (2 * level) ' '

mutual

def prettyAt (level : Nat) : Json → List Char
  | null => "null".toList
  | bool b => boolText b
  | number n => numberText n
  | string s => stringText s
  | array [] => ['[', ']']
  | array (v :: rest) =>
    '[' :: lineAt (level + 1) ++ prettyAt (level + 1) v ++ prettyItems (level + 1) rest
      ++ lineAt level ++ [']']
  | object [] => ['\x7b', '\x7d']
  | object ((k, v) :: rest) =>
    '\x7b' :: lineAt (level + 1) ++ stringText k ++ [':', ' '] ++ prettyAt (level + 1) v
      ++ prettyMembers (level + 1) rest ++ lineAt level ++ ['\x7d']

/-- The items after the first. -/
def prettyItems (level : Nat) : List Json → List Char
  | [] => []
  | v :: rest => ',' :: lineAt level ++ prettyAt level v ++ prettyItems level rest

/-- The members after the first. -/
def prettyMembers (level : Nat) : List (String × Json) → List Char
  | [] => []
  | (k, v) :: rest =>
    ',' :: lineAt level ++ stringText k ++ [':', ' '] ++ prettyAt level v
      ++ prettyMembers level rest

end

/-! ## Texts -/

def print (v : Json) : String := String.ofList v.compact

def printPretty (v : Json) : String := String.ofList (v.prettyAt 0)

end RpcScaffold.Json
