import RpcScaffold.Text.Table.Alphanumeric
import RpcScaffold.Text.Table.Uppercase
import RpcScaffold.Text.Table.Lowercase
import RpcScaffold.Text.Table.ToUpper
import RpcScaffold.Text.Table.ToLower

/-! # Letters, digits and their case

Names may hold any character, so the classes and the case forms are those of Unicode. The ASCII part
is decided by ranges and everything else by tables.
-/

namespace RpcScaffold.Text

def isAscii (c : Char) : Bool := c.toNat < 0x80

/-! ## Classes -/

def isAlphanumeric (c : Char) : Bool :=
  if isAscii c then c.isAlphanum else Table.alphanumeric.any (·.has c.toNat)

def isUpper (c : Char) : Bool :=
  if isAscii c then c.isUpper else Table.uppercase.any (·.has c.toNat)

def isLower (c : Char) : Bool :=
  if isAscii c then c.isLower else Table.lowercase.any (·.has c.toNat)

/-! ## Case forms -/

/-- The form of `c` given by an expansion, else by a shift, else `c` itself. -/
def caseForm (expansions : List (Nat × List Nat)) (shifts : List Shift) (c : Char) : List Char :=
  match expansions.lookup c.toNat with
  | some form => form.map Char.ofNat
  | none => [((Shift.image? shifts c.toNat).map Char.ofNat).getD c]

/-- Some characters have an upper-case form of two or three characters. -/
def upperForm (c : Char) : List Char :=
  if isAscii c then [c.toUpper] else caseForm Table.upperExpansions Table.upperShifts c

def lowerForm (c : Char) : List Char :=
  if isAscii c then [c.toLower] else caseForm Table.lowerExpansions Table.lowerShifts c

end RpcScaffold.Text
