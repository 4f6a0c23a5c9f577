/-! # The types a model may declare for its fields -/

namespace RpcScaffold

inductive DomainType
  | int8
  | int16
  | int32
  | int64
  | uint8
  | uint16
  | uint32
  | uint64
  | bool
  | float
  | double
  | decimal
  | string
  | char
  | timestamp
  | bytes
  | array (element : DomainType)
  | list (element : DomainType)
  | map (key value : DomainType)
  | named (model : String)
  deriving Repr, DecidableEq, Inhabited

namespace DomainType

/-- The element type of an array or a list. -/
def element? : DomainType → Option DomainType
  | array e | list e => some e
  | _ => none

def isSequence (t : DomainType) : Bool := t.element?.isSome

/-- The model the type names, itself or as the element of a sequence. Deeper names do not count. -/
def referencedModel? : DomainType → Option String
  | named m => some m
  | array (named m) | list (named m) => some m
  | _ => none

/-- The canonical expression. -/
def print : DomainType → String
  | int8 => "int8"
  | int16 => "int16"
  | int32 => "int32"
  | int64 => "int64"
  | uint8 => "uint8"
  | uint16 => "uint16"
  | uint32 => "uint32"
  | uint64 => "uint64"
  | bool => "bool"
  | float => "float"
  | double => "double"
  | decimal => "decimal"
  | string => "string"
  | char => "char"
  | timestamp => "timestamp"
  | bytes => "bytes"
  | array e => e.print ++ "[]"
  | list e => "list<" ++ e.print ++ ">"
  | map k v => "map<" ++ k.print ++ "," ++ v.print ++ ">"
  | named m => m

end DomainType

end RpcScaffold
