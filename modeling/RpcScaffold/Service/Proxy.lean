import RpcScaffold.Service.Adapter

/-! # Client proxies

A proxy offers the methods of one service in domain types, over the generated client.
-/

namespace RpcScaffold

open Code Converter

structure Proxy.Method where
  ident : String
  input : String
  output : String
  /-- From the domain request to the wire. -/
  request : Converter.Function
  /-- From the wire response to the domain. -/
  response : Converter.Function
  deriving Repr, DecidableEq, Inhabited

structure Proxy where
  serviceName : String
  type : String
  client : String
  clientModule : String
  crates : CratePaths
  converters : List String
  models : List String
  methods : List Proxy.Method
  deriving Repr, DecidableEq, Inhabited

namespace Proxy

def Method.ofContract (n : Naming) (c : Contract) : Method where
  ident := Naming.methodIdent c.name
  input := c.input
  output := c.output
  request := Converter.function n .toWire false c.input
  response := Converter.function n .toDomain false c.output

def ofRecord (s : Settings) (r : ServiceRecord) : Proxy :=
  let n := s.naming
  { serviceName := r.serviceName
    type := Naming.proxyType r.shortName
    client := n.clientType r.shortName
    clientModule := n.clientModule r.shortName
    crates := s.crates
    converters := r.methodModels.map Naming.converterModule
    models := r.methodModels
    methods := r.methods.map (Method.ofContract n) }

/-! ## Text -/

def Method.step (m : Method) : Step :=
  .block s!"pub async fn {m.ident}(&mut self, request: {m.input}) -> Result<{m.output}, Status>" [
    .line s!"let request = {m.request.imported}(request);",
    .line s!"let response = self.inner.{m.ident}(request).await?;",
    .line s!"Ok({m.response.imported}(response.into_inner()))"]

variable (p : Proxy)

def imports : List Step :=
  let shared := p.crates.sharedCrate
  [importOf "tonic::transport::Channel", importOf "tonic::Status", .blank,
    importAll s!"{shared}::{p.crates.convertersModule}" p.converters,
    importAll s!"{shared}::{p.crates.modelsModule}" p.models,
    importOf s!"{shared}::{p.crates.wireModule}::{p.clientModule}::{p.client}", .blank]

def constructors : List Step :=
  [.block "pub fn new(channel: Channel) -> Self"
      [.line ("Self " ++ inBraces s!" inner: {p.client}::new(channel) ")],
    .blank,
    .line "pub async fn connect(",
    .indent,
    .line "endpoint: impl Into<String>,",
    .dedent,
    .block ") -> Result<Self, tonic::transport::Error>" [
      .line s!"let inner = {p.client}::connect(endpoint.into()).await?;",
      .line ("Ok(Self " ++ inBraces " inner " ++ ")")]]

def steps : List Step :=
  [fileDoc ("Client proxy for `" ++ p.serviceName ++ "` backed by `" ++ p.client ++ "`."), .blank]
  ++ p.imports
  ++ [.line "#[derive(Debug, Clone)]",
    .block s!"pub struct {p.type}" [.line s!"inner: {p.client}<Channel>,"], .blank,
    .block s!"impl {p.type}"
      (p.constructors ++ p.methods.flatMap fun m => [.blank, m.step])]

def render : String := Code.render p.steps

def index (records : List ServiceRecord) : List (String × String) :=
  records.map fun r =>
    let type := Naming.proxyType r.shortName
    (Naming.moduleOf type, type)

def renderIndex (records : List ServiceRecord) : String :=
  Code.render (serviceIndexSteps "gRPC client proxies." (index records))

end Proxy

end RpcScaffold
