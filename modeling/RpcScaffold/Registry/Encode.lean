import RpcScaffold.Json.Basic
import RpcScaffold.Registry.Basic
import RpcScaffold.Settings.Basic

/-! # Declarations and settings as JSON

Every key is written, also where its value is the one that a missing key stands for.
-/

namespace RpcScaffold

open Json

def DomainType.encode (t : DomainType) : Json := .string t.print

def Model.Field.encode (f : Model.Field) : Json :=
  .object [("name", .string f.name), ("type", f.type.encode), ("nullable", .bool f.nullable)]

def Model.encode (m : Model) : Json :=
  .object [("name", .string m.name), ("marked", .bool m.marked),
    ("fields", .array (m.fields.map Model.Field.encode))]

def Returns.encode : Returns → Json
  | .async t => .object [("async", t.encode)]
  | .stream t => .object [("stream", t.encode)]
  | .blocking t => .object [("blocking", t.encode)]
  | .unit => .string "unit"

def Method.encode (m : Method) : Json :=
  .object [("name", .string m.name), ("params", .array (m.params.map DomainType.encode)),
    ("returns", m.returns.encode)]

def Interface.encode (i : Interface) : Json :=
  .object [("name", .string i.name), ("marked", .bool i.marked),
    ("methods", .array (i.methods.map Method.encode))]

def Service.encode (s : Service) : Json :=
  .object [("name", .string s.name), ("marked", .bool s.marked),
    ("models", .array (s.models.map .string)),
    ("interfaces", .array (s.interfaces.map Interface.encode))]

def Registry.members (r : Registry) : List (String × Json) :=
  [("models", .array (r.models.map Model.encode)),
    ("services", .array (r.services.map Service.encode))]

def Registry.encode (r : Registry) : Json := .object r.members

def Naming.encode (n : Naming) : Json :=
  .object [("wire_prefix", .string n.wirePrefix), ("service_suffix", .string n.serviceSuffix),
    ("timestamp_prefix", .string n.timestampPrefix)]

def CratePaths.encode (c : CratePaths) : Json :=
  .object [("shared_crate", .string c.sharedCrate), ("models_module", .string c.modelsModule),
    ("wire_module", .string c.wireModule), ("converters_module", .string c.convertersModule),
    ("services_module", .string c.servicesModule)]

def Layout.encode (l : Layout) : Json :=
  .object [("schema_file", .string l.schemaFile), ("converters_dir", .string l.convertersDir),
    ("models_dir", .string l.modelsDir), ("adapters_dir", .string l.adaptersDir),
    ("services_dir", .string l.servicesDir), ("proxies_dir", .string l.proxiesDir),
    ("instructions_file", .string l.instructionsFile), ("manifest_file", .string l.manifestFile)]

def Settings.encode (s : Settings) : Json :=
  .object [("namespace", .string s.package), ("naming", s.naming.encode),
    ("crates", s.crates.encode), ("layout", s.layout.encode)]

end RpcScaffold
