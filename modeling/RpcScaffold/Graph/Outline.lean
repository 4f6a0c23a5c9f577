import RpcScaffold.Bundle
import RpcScaffold.Graph.Basic
import RpcScaffold.Text.Outline

/-! # Outlines of types, graphs and bundles -/

namespace RpcScaffold

open Text

/-! ## Types -/

def DomainType.outline : DomainType → Outline
  | int8 => .word "Int8"
  | int16 => .word "Int16"
  | int32 => .word "Int32"
  | int64 => .word "Int64"
  | uint8 => .word "UInt8"
  | uint16 => .word "UInt16"
  | uint32 => .word "UInt32"
  | uint64 => .word "UInt64"
  | bool => .word "Bool"
  | float => .word "Float"
  | double => .word "Double"
  | decimal => .word "Decimal"
  | string => .word "String"
  | char => .word "Char"
  | timestamp => .word "Timestamp"
  | bytes => .word "Bytes"
  | array e => .variant "Array" [e.outline]
  | list e => .variant "List" [e.outline]
  | map k v => .variant "Map" [k.outline, v.outline]
  | named model => .variant "Named" [.quote model]

def WireScalar.outline : WireScalar → Outline
  | int32 => .word "Int32"
  | int64 => .word "Int64"
  | uint32 => .word "UInt32"
  | uint64 => .word "UInt64"
  | bool => .word "Bool"
  | float => .word "Float"
  | double => .word "Double"
  | string => .word "String"
  | bytes => .word "Bytes"

def WireType.outline : WireType → Outline
  | scalar s => .variant "Scalar" [s.outline]
  | message name => .variant "Message" [.quote name]

def Cardinality.outline : Cardinality → Outline
  | scalar => .word "Scalar"
  | repeated => .word "Repeated"
  | bytes => .word "Bytes"

/-! ## Messages -/

def Message.Field.outline (f : Message.Field) : Outline :=
  .record "FieldDescriptor" [
    ("name", .quote f.name),
    ("wire_name", .quote f.wireName),
    ("domain_type", f.domainType.outline),
    ("wire_type", f.wireType.outline),
    ("cardinality", f.cardinality.outline),
    ("ordinal", .number f.ordinal),
    ("is_nested_message", .flag f.isNested),
    ("nullable", .flag f.nullable)]

def Message.outline (m : Message) : Outline :=
  .record "MessageDescriptor" [
    ("name", .quote m.name),
    ("wire_name", .quote m.wireName),
    ("fields", .list (m.fields.map Message.Field.outline))]

def Catalog.outline (c : Catalog) : Outline :=
  .record "MessageCatalog" [
    ("messages", .list (c.toList.map Message.outline)),
    ("index", .map (c.index.entries.map fun e => (e.1, .number e.2)))]

/-! ## Graphs -/

def Contract.outline (c : Contract) : Outline :=
  .record "MethodContract" [
    ("name", .quote c.name), ("input", .quote c.input), ("output", .quote c.output)]

def ServiceRecord.outline (r : ServiceRecord) : Outline :=
  .record "ServiceRecord" [
    ("service_name", .quote r.serviceName),
    ("short_name", .quote r.shortName),
    ("interface_name", .quote r.interfaceName),
    ("methods", .list (r.methods.map Contract.outline)),
    ("referenced_models", .list (r.referencedModels.map .quote))]

def ServiceGraph.outline (g : ServiceGraph) : Outline :=
  .record "ServiceGraph" [
    ("records", .list (g.records.map ServiceRecord.outline)), ("messages", g.messages.outline)]

/-! ## Bundles -/

def ArtifactKind.outline : ArtifactKind → Outline
  | schema => .word "Schema"
  | converter => .word "Converter"
  | converterIndex => .word "ConverterIndex"
  | adapter => .word "Adapter"
  | adapterIndex => .word "AdapterIndex"
  | proxy => .word "Proxy"
  | proxyIndex => .word "ProxyIndex"
  | instructions => .word "Instructions"
  | copiedSource => .word "CopiedSource"

def Artifact.outline (a : Artifact) : Outline :=
  .record "Artifact" [("kind", a.kind.outline), ("text", .quote a.text)]

def Bundle.outline (b : Bundle) : Outline :=
  .record "ArtifactBundle" [("artifacts", .map (b.toList.map fun e => (e.1, e.2.outline)))]

end RpcScaffold
