/-! # The shortest decimal that reads back as the same double

A double is a whole number times a power of two, and every real that is nearer to it than to its
neighbours reads back as it. All arithmetic here is exact.
-/

namespace RpcScaffold.Text

/-- `digits * 10 ^ exponent`. -/
structure Decimal where
  digits : Nat
  exponent : Int
  deriving Repr, DecidableEq

/-- A positive finite double and its rounding interval, in quarters of `2 ^ exponent`. The ends
belong to the interval if `closed`. -/
structure Interval where
  low : Nat
  mid : Nat
  high : Nat
  exponent : Int
  closed : Bool

/-- The leading bit of a normal significand, which is not stored. -/
def implicitBit : Nat := 0x10000000000000

def signBit : Nat := 0x8000000000000000

/-- `bits` is a finite double without its sign. -/
def Interval.ofBits (bits : Nat) : Interval :=
  let fraction := bits % implicitBit
  let biased := bits / implicitBit
  let m := if biased = 0 then fraction else fraction + implicitBit
  let q : Int := if biased = 0 then -1074 else Int.ofNat biased - 1075
  -- Below a power of two the neighbours are twice as dense.
  let below := if fraction = 0 ∧ biased > 1 then 1 else 2
  { low := 4 * m - below, mid := 4 * m, high := 4 * m + 2, exponent := q - 2, closed := m % 2 = 0 }

/-- The quotient of `n * 2 ^ q` by `10 ^ k`, as a fraction. -/
def ratio (n : Nat) (q k : Int) : Nat × Nat :=
  (n * Nat.pow 2 q.toNat * Nat.pow 10 (-k).toNat, Nat.pow 2 (-q).toNat * Nat.pow 10 k.toNat)

/-- The point of the grid `10 ^ k` in the interval that is nearest to its middle. -/
def Interval.gridPoint? (i : Interval) (k : Int) : Option Nat :=
  let (low, den) := ratio i.low i.exponent k
  let mid := (ratio i.mid i.exponent k).1
  let high := (ratio i.high i.exponent k).1
  let inside (d : Nat) : Bool :=
    if i.closed then low ≤ d * den && d * den ≤ high else low < d * den && d * den < high
  let down := mid / den
  let up := down + 1
  let preferDown : Bool := 2 * (mid % den) < den || (2 * (mid % den) == den && down % 2 == 0)
  if inside down && down != 0 && (preferDown || !inside up) then some down
  else if inside up then some up
  else none

/-- The coarsest grid with a point in the interval gives the fewest digits. -/
def Interval.shortest (i : Interval) : Decimal :=
  let grids := (List.range 650).map fun j => Int.ofNat 310 - Int.ofNat j
  let hit := grids.findSome? fun k => (i.gridPoint? k).map (Decimal.mk · k)
  hit.getD ⟨0, 0⟩

/-- Positional notation for magnitudes from `10 ^ -5` up to `10 ^ 16`, always with a point, and
scientific notation beyond. -/
def Decimal.text (d : Decimal) : String :=
  let digits := (Nat.toDigits 10 d.digits)
  let point := Int.ofNat digits.length + d.exponent
  if 0 ≤ d.exponent ∧ point ≤ 16 then
    String.ofList (digits ++ List.replicate d.exponent.toNat '0' ++ ['.', '0'])
  else if 0 < point ∧ point ≤ 16 then
    String.ofList (digits.take point.toNat ++ '.' :: digits.drop point.toNat)
  else if -5 < point ∧ point ≤ 0 then
    String.ofList ('0' :: '.' :: List.replicate (-point).toNat '0' ++ digits)
  else
    let lead := if digits.length = 1 then digits else digits.take 1 ++ '.' :: digits.drop 1
    String.ofList lead ++ (if 0 < point then "e+" else "e") ++ toString (point - 1)

/-- The text of a finite double, given by its bits. -/
def doubleText (bits : UInt64) : String :=
  let magnitude := bits.toNat % signBit
  let sign := if bits.toNat < signBit then "" else "-"
  if magnitude = 0 then sign ++ "0.0" else sign ++ (Interval.ofBits magnitude).shortest.text

end RpcScaffold.Text
