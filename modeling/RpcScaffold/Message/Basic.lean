import RpcScaffold.DomainType.Basic
import RpcScaffold.Wire.Basic

/-! # Messages of a schema -/

namespace RpcScaffold

structure Message.Field where
  /-- The name as declared. -/
  name : String
  wireName : String
  domainType : DomainType
  wireType : WireType
  cardinality : Cardinality
  /-- The tag on the wire: the place among the declared fields, from 1 on. -/
  ordinal : Nat
  isNested : Bool
  /-- The domain field may be absent. A single nested message always may. -/
  nullable : Bool
  deriving Repr, DecidableEq, Inhabited

structure Message where
  /-- The name of the model. -/
  name : String
  wireName : String
  fields : List Message.Field
  deriving Repr, DecidableEq, Inhabited

namespace Message.Field

variable (f : Message.Field)

/-- The schema marks the field `optional`, so that an absent scalar differs from a zero. Messages
tell the two apart by themselves. -/
def hasPresence : Bool := f.nullable && !f.isNested && f.cardinality != .repeated

/-- The type as a line of the schema writes it. -/
def schemaType : String :=
  if f.cardinality = .repeated then "repeated " ++ f.wireType.text
  else if f.hasPresence then "optional " ++ f.wireType.text
  else f.wireType.text

def nestedModel? : Option String := if f.isNested then f.domainType.referencedModel? else none

/-- The type of the field, or of its elements if it repeats. -/
def elementType : DomainType :=
  if f.cardinality = .repeated then f.domainType.element?.getD f.domainType else f.domainType

end Message.Field

def Message.hasFieldOf (m : Message) (t : DomainType) : Bool :=
  m.fields.any fun f => f.elementType == t

end RpcScaffold
