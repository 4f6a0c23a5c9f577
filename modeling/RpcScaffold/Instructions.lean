import RpcScaffold.Code.Writer
import RpcScaffold.Graph.Basic
import RpcScaffold.Settings.Basic
import RpcScaffold.Text.Split
import RpcScaffold.Versions

/-! # Setup instructions

What the user adds to the three crates that the generated code is for.
-/

namespace RpcScaffold.Instructions

open Code

/-! ## Parts of lines -/

/-- Text in double quotes. -/
def inQuotes (s : String) : String := "\"" ++ s ++ "\""

def serverAddress : String := "[::1]:50051"

/-- The type itself or the elements of a sequence are of the type `wanted`. -/
def mentions (wanted : DomainType) : DomainType → Bool
  | .array e => .array e == wanted || mentions wanted e
  | .list e => .list e == wanted || mentions wanted e
  | t => t == wanted

/-- Some field of a message needs the type `wanted`. -/
def uses (g : ServiceGraph) (wanted : DomainType) : Bool :=
  g.messages.toList.any fun m => m.fields.any fun f => mentions wanted f.domainType

def underlined (title : String) : List Step :=
  [.blank, .line title, .line (String.ofList (List.replicate title.length '-')), .blank]

def dependency (v : PackageVersions) (package : String) : Step :=
  let version := inQuotes (v.versionOf package)
  if package = "tokio" then
    let features := inQuotes "macros" ++ ", " ++ inQuotes "rt-multi-thread"
    .line ("tokio = " ++ inBraces s!" version = {version}, features = [{features}] ")
  else .line s!"{package} = {version}"

def sharedDependency (s : Settings) : Step :=
  let crate := s.crates.sharedCrate
  .line (crate ++ " = " ++ inBraces (" path = " ++ inQuotes ("../" ++ crate) ++ " "))

def lastPiece (path : String) : String :=
  String.ofList ((Text.split (· == '/') path.toList).getLastD [])

def mainSignature : String := "main() -> Result<(), Box<dyn std::error::Error>>"

/-! ## Sections -/

variable (g : ServiceGraph) (s : Settings) (v : PackageVersions)

def sharedSection : List Step :=
  let crate := s.crates.sharedCrate
  underlined "Shared"
  ++ [.line s!"1. Add to {crate}/Cargo.toml:", .blank,
    .line "[dependencies]", dependency v "prost", dependency v "tonic"]
  ++ (if uses g .timestamp then [dependency v "chrono"] else [])
  ++ (if uses g .decimal then [dependency v "rust_decimal"] else [])
  ++ [.blank, .line "[build-dependencies]", dependency v "tonic-build", .blank,
    .line s!"2. Create {crate}/build.rs:", .blank,
    .block ("fn " ++ mainSignature) [
      .line ("tonic_build::compile_protos(" ++ inQuotes (lastPiece s.layout.schemaFile) ++ ")?;"),
      .line "Ok(())"],
    .blank,
    .line s!"3. Declare modules in {crate}/src/lib.rs:", .blank,
    moduleLine s.crates.convertersModule, moduleLine s.crates.modelsModule,
    .block ("pub mod " ++ s.crates.wireModule)
      [.line ("tonic::include_proto!(" ++ inQuotes s.package ++ ");")],
    .blank,
    .line ("Every copied model file needs a `pub mod` line in " ++ s.layout.modelsDir
      ++ "/mod.rs, and each model"),
    .line "type must implement Default and Clone."]

/-- Hands an adapter of the service to the server. -/
def registration (r : ServiceRecord) : Step :=
  let adapter := s.naming.adapterType r.shortName
  let implementation := s!"{s.crates.servicesModule}::{r.serviceName}::default()"
  .line s!".add_service(grpc_services::{adapter}::new({implementation}).into_server())"

def serverSection : List Step :=
  underlined "Server"
  ++ [.line "1. Add to server/Cargo.toml:", .blank,
    .line "[dependencies]", sharedDependency s, dependency v "async-trait", dependency v "tokio",
    dependency v "tonic", .blank,
    .line "2. Declare modules in server/src/main.rs:", .blank,
    .line "mod grpc_services;", .line s!"mod {s.crates.servicesModule};", .blank,
    .line "Domain service traits are expected to use #[async_trait::async_trait].", .blank,
    .line "3. Register the services:", .blank,
    .line "#[tokio::main]",
    .block ("async fn " ++ mainSignature) (
      [.line ("let addr = " ++ inQuotes serverAddress ++ ".parse()?;"),
        .line "tonic::transport::Server::builder()", .indent]
      ++ g.records.map (registration s)
      ++ [.line ".serve(addr)", .line ".await?;", .dedent, .line "Ok(())"])]

/-- The variable that holds the proxy of the service. -/
def proxyBinding (r : ServiceRecord) : String := Naming.binding (Naming.proxyType r.shortName)

def connection (r : ServiceRecord) : Step :=
  let proxy := "grpc_services::" ++ Naming.proxyType r.shortName
  let address := inQuotes ("http://" ++ serverAddress)
  .line s!"let mut {proxyBinding r} = {proxy}::connect({address}).await?;"

def sampleCall (r : ServiceRecord) (c : Contract) : List Step :=
  let input := s!"{s.crates.sharedCrate}::{s.crates.modelsModule}::{c.input}::default()"
  [.blank, .line "4. Sample call:", .blank,
    .line s!"let response = {proxyBinding r}.{Naming.methodIdent c.name}({input}).await?;",
    .line ("println!(" ++ inQuotes (inBraces "response:?") ++ ");")]

/-- A call of the first method of the first service. -/
def firstCall : List Step :=
  match g.records with
  | [] => []
  | r :: _ =>
    match r.methods with
    | [] => []
    | c :: _ => sampleCall s r c

def clientSection : List Step :=
  underlined "Client"
  ++ [.line "1. Add to client/Cargo.toml:", .blank,
    .line "[dependencies]", sharedDependency s, dependency v "tokio", dependency v "tonic", .blank,
    .line "2. Declare modules in client/src/main.rs:", .blank,
    .line "mod grpc_services;", .blank,
    .line "3. Connect:", .blank]
  ++ g.records.map connection
  ++ firstCall g s

/-! ## All of it -/

def steps : List Step :=
  [.line "protowiz setup instructions", .line "===========================", .blank,
    .line s!"Proto package: {s.package}"]
  ++ g.records.map (fun r => .line s!"Service: {r.serviceName} ({r.methods.length} methods)")
  ++ sharedSection g s v ++ serverSection g s v ++ clientSection g s v

def render : String := Code.render (steps g s v)

end RpcScaffold.Instructions
