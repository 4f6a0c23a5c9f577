/-! # Sizes of texts and their binary units -/

namespace RpcScaffold.Text

/-- The bytes of all the texts together. -/
def totalSize (texts : List String) : Nat := texts.foldr (fun t n => t.utf8ByteSize + n) 0

/-- The nearest whole number to `n / d`. A half goes to the even neighbour. -/
def roundDiv (n d : Nat) : Nat :=
  let q := n / d
  let twice := 2 * (n % d)
  if twice < d then q else if twice > d then q + 1 else q + q % 2

/-- The nearest number with 53 significant bits. -/
def roundToDouble (n : Nat) : Nat :=
  let unit := Nat.pow 2 (n.log2 - 52)
  roundDiv n unit * unit

/-- The largest power of 1024 that is not above `n`. -/
def unitIndex (n : Nat) : Nat := n.log2 / 10

def units : List String := ["KiB", "MiB", "GiB", "TiB", "PiB", "EiB"]

/-- `512 B`, `1.5 KiB`. From 1024 on there is one decimal, which is rounded after the unit is
chosen: just below a unit there are 1024 of the one before. -/
def byteSize (n : Nat) : String :=
  if n < 1024 then s!"{n} B"
  else
    let size := roundToDouble n
    let k := unitIndex size
    let tenths := roundDiv (10 * size) (Nat.pow 1024 k)
    let unit := units.getD (k - 1) "EiB"
    s!"{tenths / 10}.{tenths % 10} {unit}"

end RpcScaffold.Text
