import RpcScaffold.Failure
import RpcScaffold.Message.Basic
import RpcScaffold.Registry.Basic
import RpcScaffold.Wire.Mapping

/-! # The message of a model -/

namespace RpcScaffold.Message

/-- Tags are 32-bit words. -/
def maxFields : Nat := 0xFFFFFFFF

def isTimestamp (t : DomainType) : Bool :=
  t == .timestamp || t.element? == some .timestamp

def Field.make (n : Naming) (f : Model.Field) (ordinal : Nat) (m : WireMapping) : Field where
  name := f.name
  wireName := n.wireField f.name (isTimestamp f.type)
  domainType := f.type
  wireType := m.type
  cardinality := m.cardinality
  ordinal := ordinal
  isNested := m.type.isMessage
  nullable := f.nullable || (m.type.isMessage && m.cardinality == .scalar)

/-- The field at place `ordinal`, after fields with the wire names `taken`. -/
def buildField (n : Naming) (model : String) (taken : List String) (ordinal : Nat)
    (f : Model.Field) : Except Failure Field :=
  match WireMapping.ofType n f.type with
  | .error u => .error (.unsupportedType model f.name f.type.print u.reason)
  | .ok m =>
    let field := Field.make n f ordinal m
    if taken.contains field.wireName then
      .error (.invalidArgument s!"model {model} has two fields named {field.wireName} on the wire")
    else if ordinal > maxFields then
      .error (.invalidArgument s!"model {model} has too many fields")
    else .ok field

def buildFields (n : Naming) (model : String) (taken : List String) (ordinal : Nat) :
    List Model.Field → Except Failure (List Field)
  | [] => .ok []
  | f :: rest => do
    let field ← buildField n model taken ordinal f
    let fields ← buildFields n model (field.wireName :: taken) (ordinal + 1) rest
    pure (field :: fields)

/-- Fields keep the order of their declaration. -/
def ofModel (n : Naming) (m : Model) : Except Failure Message := do
  let fields ← buildFields n m.name [] 1 m.fields
  pure { name := m.name, wireName := n.wireMessage m.name, fields }

end RpcScaffold.Message
