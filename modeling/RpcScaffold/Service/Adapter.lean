import RpcScaffold.Code.Writer
import RpcScaffold.Converter.Expr
import RpcScaffold.Graph.Basic
import RpcScaffold.Settings.Basic

/-! # Server adapters

An adapter receives the calls of one service, converts each request, calls the implementation of the
interface and converts its response.
-/

namespace RpcScaffold

open Code Converter

structure Adapter.Method where
  ident : String
  input : String
  output : String
  /-- From the wire request to the domain. -/
  request : Converter.Function
  /-- From the domain response to the wire. -/
  response : Converter.Function
  deriving Repr, DecidableEq, Inhabited

structure Adapter where
  serviceName : String
  interfaceName : String
  type : String
  serverTrait : String
  serverType : String
  serverModule : String
  crates : CratePaths
  converters : List String
  wireTypes : List String
  methods : List Adapter.Method
  deriving Repr, DecidableEq, Inhabited

namespace Adapter

def Method.ofContract (n : Naming) (c : Contract) : Method where
  ident := Naming.methodIdent c.name
  input := n.wireMessage c.input
  output := n.wireMessage c.output
  request := Converter.function n .toDomain false c.input
  response := Converter.function n .toWire false c.output

def ofRecord (s : Settings) (r : ServiceRecord) : Adapter :=
  let n := s.naming
  { serviceName := r.serviceName
    interfaceName := r.interfaceName
    type := n.adapterType r.shortName
    serverTrait := n.wireService r.shortName
    serverType := n.serverType r.shortName
    serverModule := n.serverModule r.shortName
    crates := s.crates
    converters := r.methodModels.map Naming.converterModule
    wireTypes := r.methodModels.map n.wireMessage
    methods := r.methods.map (Method.ofContract n) }

/-! ## Text -/

def Method.steps (m : Method) : List Step := [
  .line s!"async fn {m.ident}(",
  .indent,
  .line "&self,",
  .line s!"request: Request<{m.input}>,",
  .dedent,
  .block s!") -> Result<Response<{m.output}>, Status>" [
    .line s!"let input = {m.request.imported}(request.into_inner());",
    .line s!"let output = self.inner.{m.ident}(input).await;",
    .line s!"Ok(Response::new({m.response.imported}(output)))"]]

/-- The methods with a blank line between them. -/
def methodSteps : List Method → List Step
  | [] => []
  | [m] => m.steps
  | m :: rest => m.steps ++ .blank :: methodSteps rest

variable (a : Adapter)

def imports : List Step :=
  let shared := a.crates.sharedCrate
  let wire := s!"{shared}::{a.crates.wireModule}"
  [importOf "std::sync::Arc", .blank,
    importAll "tonic" ["Request", "Response", "Status"], .blank,
    importAll s!"{shared}::{a.crates.convertersModule}" a.converters,
    importAll s!"{wire}::{a.serverModule}" [a.serverTrait, a.serverType],
    importAll wire a.wireTypes, .blank,
    importOf s!"crate::{a.crates.servicesModule}::{a.interfaceName}", .blank]

def definition : List Step :=
  [.line ("/// Dispatches `" ++ a.serverTrait ++ "` calls to a `" ++ a.interfaceName
      ++ "` implementation."),
    .block s!"pub struct {a.type}<S>" [.line "inner: Arc<S>,"], .blank,
    .block s!"impl<S> {a.type}<S>" [
      .block "pub fn new(inner: S) -> Self" [.line "Self::from_arc(Arc::new(inner))"], .blank,
      .block "pub fn from_arc(inner: Arc<S>) -> Self" [.line ("Self " ++ inBraces " inner ")]],
    .blank]

/-- The clause that `S` implements the interface. -/
def bound : List Step :=
  [.line "where", .line s!"    S: {a.interfaceName} + Send + Sync + 'static,"]

def steps : List Step :=
  [fileDoc ("gRPC server adapter exposing `" ++ a.serviceName ++ "` as `" ++ a.serverTrait ++ "`."),
    .blank]
  ++ a.imports ++ a.definition
  ++ [.line s!"impl<S> {a.type}<S>"] ++ a.bound
  ++ [.braced [
      .line "/// Wrap this adapter in the tonic server type.",
      .block s!"pub fn into_server(self) -> {a.serverType}<Self>"
        [.line s!"{a.serverType}::new(self)"]],
    .blank,
    .line "#[tonic::async_trait]",
    .line s!"impl<S> {a.serverTrait} for {a.type}<S>"] ++ a.bound
  ++ [.braced (methodSteps a.methods)]

def render : String := Code.render a.steps

end Adapter

/-! ## Indexes of service modules -/

/-- The modules of a directory and the type that each of them defines. -/
def serviceIndexSteps (summary : String) (entries : List (String × String)) : List Step :=
  [fileDoc summary, .blank] ++ entries.map (fun e => moduleLine e.1) ++ [.blank]
  ++ entries.map fun e => .line s!"pub use {e.1}::{e.2};"

def Adapter.index (s : Settings) (records : List ServiceRecord) : List (String × String) :=
  records.map fun r =>
    let type := s.naming.adapterType r.shortName
    (Naming.moduleOf type, type)

def Adapter.renderIndex (s : Settings) (records : List ServiceRecord) : String :=
  Code.render (serviceIndexSteps "gRPC server adapters." (Adapter.index s records))

end RpcScaffold
