import RpcScaffold.Naming

/-! # Settings of a run -/

namespace RpcScaffold

/-- How generated code reaches the domain and wire types. -/
structure CratePaths where
  sharedCrate : String := "shared"
  modelsModule : String := "models"
  wireModule : String := "wire"
  convertersModule : String := "converters"
  servicesModule : String := "services"
  deriving Repr, DecidableEq, Inhabited

/-- Where the artifacts stand below the output root. -/
structure Layout where
  schemaFile : String := "shared/grpc.proto"
  convertersDir : String := "shared/src/converters"
  modelsDir : String := "shared/src/models"
  adaptersDir : String := "server/src/grpc_services"
  servicesDir : String := "server/src/services"
  proxiesDir : String := "client/src/grpc_services"
  instructionsFile : String := "README.txt"
  manifestFile : String := ".protowiz/manifest.json"
  deriving Repr, DecidableEq, Inhabited

/-- The directories that are emptied of files before a write. -/
def Layout.resetDirs (l : Layout) : List String :=
  [l.convertersDir, l.adaptersDir, l.proxiesDir, l.modelsDir]

structure Settings where
  /-- The package of the schema. -/
  package : String := "grpc_generated"
  naming : Naming := {}
  crates : CratePaths := {}
  layout : Layout := {}
  deriving Repr, DecidableEq, Inhabited

/-- The package of a run that sets none. -/
def Settings.defaultPackage : String := ({} : Settings).package

end RpcScaffold
