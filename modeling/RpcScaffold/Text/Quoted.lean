import RpcScaffold.Text.Letter
import RpcScaffold.Text.Table.Extending
import RpcScaffold.Text.Table.Unprintable

/-! # Quoted text

How a message shows a text that may hold anything: between quotes, with escapes for what cannot be
seen.
-/

namespace RpcScaffold.Text

def isPrintable (c : Char) : Bool :=
  if isAscii c then 0x20 ≤ c.toNat && c.toNat < 0x7F else !Table.unprintable.any (·.has c.toNat)

/-- A combining mark, which would merge with the quote before it. -/
def isExtending (c : Char) : Bool := Table.extending.any (·.has c.toNat)

def hex (n : Nat) : List Char := Nat.toDigits 16 n

def escapeChar (c : Char) : List Char :=
  match c with
  | '"' => ['\\', '"']
  | '\\' => ['\\', '\\']
  | '\n' => ['\\', 'n']
  | '\r' => ['\\', 'r']
  | '\t' => ['\\', 't']
  | '\x00' => ['\\', '0']
  | _ =>
    if isPrintable c && !isExtending c then [c]
    else ['\\', 'u', '\x7b'] ++ hex c.toNat ++ ['\x7d']

def quoted (s : String) : String :=
  String.ofList ('"' :: s.toList.flatMap escapeChar ++ ['"'])

end RpcScaffold.Text
