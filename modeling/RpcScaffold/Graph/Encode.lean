import RpcScaffold.Graph.Basic
import RpcScaffold.Json.Basic

/-! # Service records as JSON -/

namespace RpcScaffold

def Contract.encode (c : Contract) : Json :=
  .object [("name", .string c.name), ("input", .string c.input), ("output", .string c.output)]

def ServiceRecord.encode (r : ServiceRecord) : Json :=
  .object [("service_name", .string r.serviceName), ("short_name", .string r.shortName),
    ("interface_name", .string r.interfaceName),
    ("methods", .array (r.methods.map Contract.encode)),
    ("referenced_models", .array (r.referencedModels.map .string))]

end RpcScaffold
