import RpcScaffold.NameMap

/-! # JSON values -/

namespace RpcScaffold

/-- A number is a natural number below `2 ^ 64`, a negative whole number down to `-2 ^ 63`, or
otherwise a double, held as its bits. -/
inductive Json.Number
  | nat (n : Nat)
  | neg (magnitude : Nat)
  | real (bits : UInt64)
  deriving Repr, DecidableEq, Inhabited

inductive Json
  | null
  | bool (value : Bool)
  | number (value : Json.Number)
  | string (value : String)
  | array (items : List Json)
  | object (members : List (String × Json))
  deriving Repr, Inhabited

namespace Json

/-- The members by key. Of two members with one key the later one stays. -/
def sortMembers (members : List (String × Json)) : List (String × Json) :=
  members.foldl (fun sorted m => insertEntry m.1 m.2 sorted) []

def get? (key : String) : Json → Option Json
  | object members => members.lookup key
  | _ => none

end Json

end RpcScaffold
