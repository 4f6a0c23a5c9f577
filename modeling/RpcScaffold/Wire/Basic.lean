/-! # Wire types -/

namespace RpcScaffold

inductive WireScalar
  | int32
  | int64
  | uint32
  | uint64
  | bool
  | float
  | double
  | string
  | bytes
  deriving Repr, DecidableEq, Inhabited

/-- The spelling in a schema. -/
def WireScalar.text : WireScalar → String
  | int32 => "int32"
  | int64 => "int64"
  | uint32 => "uint32"
  | uint64 => "uint64"
  | bool => "bool"
  | float => "float"
  | double => "double"
  | string => "string"
  | bytes => "bytes"

inductive WireType
  | scalar (s : WireScalar)
  /-- Another message, by its wire name. -/
  | message (name : String)
  deriving Repr, DecidableEq, Inhabited

def WireType.text : WireType → String
  | scalar s => s.text
  | message name => name

def WireType.isMessage : WireType → Bool
  | scalar _ => false
  | message _ => true

inductive Cardinality
  | scalar
  | repeated
  | bytes
  deriving Repr, DecidableEq, Inhabited

end RpcScaffold
