/-! # Messages with a place

What is told of a fault is a text, and after it the place in a document that the fault is about. A
text from elsewhere may end in a place of its own. That one is then the place of the fault, and is
written in the same way as all others.
-/

namespace RpcScaffold.Json

/-- A text, and the line and the column that it is about. Lines are counted from 1, so line 0 is no
place. -/
structure Placed where
  text : String
  line : Nat
  column : Nat
  deriving Repr, DecidableEq

namespace Placed

def message (p : Placed) : String :=
  if p.line = 0 then p.text else s!"{p.text} at line {p.line} column {p.column}"

/-! ## Taking a message apart

The place is looked for from the end, so all texts here are reversed.
-/

/-- A decimal number that fits a word, and what stands before it. -/
def endingNumber? (reversed : List Char) : Option (Nat × List Char) :=
  let digits := reversed.takeWhile Char.isDigit
  let number := Nat.ofDigitChars 10 digits.reverse 0
  if digits.isEmpty ∨ 0x10000000000000000 ≤ number then none
  else some (number, reversed.dropWhile Char.isDigit)

/-- What stands before the words. -/
def before? (words : String) (reversed : List Char) : Option (List Char) :=
  words.toList.reverse.isPrefixOf? reversed

def ending? (message : String) : Option Placed := do
  let (column, rest) ← endingNumber? message.toList.reverse
  let rest ← before? " column " rest
  let (line, rest) ← endingNumber? rest
  let rest ← before? " at line " rest
  some ⟨String.ofList rest.reverse, line, column⟩

/-- A message that does not end in a place is all text. -/
def ofMessage (message : String) : Placed := (ending? message).getD ⟨message, 0, 0⟩

end Placed

end RpcScaffold.Json
