/-! # Spans of code points -/

namespace RpcScaffold.Text

/-- The code points `first`, `first + step`, and so on up to `last`. -/
structure Span where
  first : Nat
  last : Nat
  step : Nat
  deriving Repr, DecidableEq

def Span.has (s : Span) (n : Nat) : Bool :=
  s.first ≤ n && n ≤ s.last && (n - s.first) % s.step == 0

/-- Every code point of the span has its image `offset` further on. -/
structure Shift where
  span : Span
  offset : Int
  deriving Repr, DecidableEq

/-- The image of `n` under the first shift that covers it. -/
def Shift.image? (shifts : List Shift) (n : Nat) : Option Nat :=
  (shifts.find? (·.span.has n)).map fun s => (Int.ofNat n + s.offset).toNat

end RpcScaffold.Text
