import RpcScaffold.DomainType.Basic
import RpcScaffold.Naming
import RpcScaffold.Wire.Basic

/-! # The wire type of a domain type

A scalar travels as the scalar of its width; a decimal travels as a double and a timestamp as the
milliseconds since 1970. A sequence of bytes is one `bytes` value, any other sequence repeats the
mapping of its elements, and a name stands for the message of that model.
-/

namespace RpcScaffold

structure WireMapping where
  type : WireType
  cardinality : Cardinality
  deriving Repr, DecidableEq, Inhabited

inductive Unsupported
  | narrowSigned
  | narrowUnsigned
  | singleByte
  | char
  | map
  | nestedSequence
  | sequenceOfMaps
  deriving Repr, DecidableEq

def Unsupported.reason : Unsupported → String
  | narrowSigned => "proto3 has no integer narrower than 32 bits; declare int32"
  | narrowUnsigned => "proto3 has no integer narrower than 32 bits; declare uint32"
  | singleByte => "a single byte has no wire scalar; declare uint32 or bytes"
  | char => "char has no wire scalar; declare string"
  | map => "map fields are not supported"
  | nestedSequence => "nested sequences are not supported"
  | sequenceOfMaps => "sequences of maps are not supported"

namespace WireMapping

def single (s : WireScalar) : WireMapping := ⟨.scalar s, .scalar⟩

def blob : WireMapping := ⟨.scalar .bytes, .bytes⟩

def repeated (m : WireMapping) : WireMapping := { m with cardinality := .repeated }

/-- The mapping of a type that is no sequence. -/
def ofValue (n : Naming) : DomainType → Except Unsupported WireMapping
  | .int32 => .ok (single .int32)
  | .int64 => .ok (single .int64)
  | .uint32 => .ok (single .uint32)
  | .uint64 => .ok (single .uint64)
  | .bool => .ok (single .bool)
  | .float => .ok (single .float)
  | .double | .decimal => .ok (single .double)
  | .string => .ok (single .string)
  | .timestamp => .ok (single .int64)
  | .bytes => .ok blob
  | .named model => .ok ⟨.message (n.wireMessage model), .scalar⟩
  | .int8 | .int16 => .error .narrowSigned
  | .uint16 => .error .narrowUnsigned
  | .uint8 => .error .singleByte
  | .char => .error .char
  | .map _ _ => .error .map
  | .array _ | .list _ => .error .nestedSequence

/-- The mapping of a sequence by its element type. -/
def ofElement (n : Naming) : DomainType → Except Unsupported WireMapping
  | .uint8 => .ok blob
  | .map _ _ => .error .sequenceOfMaps
  | e => repeated <$> ofValue n e

def ofType (n : Naming) : DomainType → Except Unsupported WireMapping
  | .array e | .list e => ofElement n e
  | t => ofValue n t

end WireMapping

end RpcScaffold
