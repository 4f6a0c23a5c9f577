import RpcScaffold.Pipeline.Stages

/-! # Generating everything for a registry

The same registry and settings give the same artifacts, byte for byte.
-/

namespace RpcScaffold

structure GenerationStats where
  services : Nat
  messages : Nat
  converters : Nat
  adapters : Nat
  proxies : Nat
  artifacts : Nat
  bytes : Nat
  deriving Repr, DecidableEq, Inhabited

structure Generation where
  graph : ServiceGraph
  bundle : Bundle
  diagnostics : List Diagnostic
  deriving Repr, DecidableEq, Inhabited

def Generation.stats (g : Generation) : GenerationStats where
  services := g.graph.records.length
  messages := g.graph.messages.size
  converters := g.bundle.count .converter
  adapters := g.bundle.count .adapter
  proxies := g.bundle.count .proxy
  artifacts := g.bundle.size
  bytes := g.bundle.totalBytes

def generationStages : List Stage := [
  .discovery "discover",
  .schema "emit.schema",
  .converters "emit.converters",
  .adapters "emit.adapters",
  .proxies "emit.proxies"]

/-- A run that was cancelled beforehand stages nothing. -/
def generateUnless (cancelled : Bool) (r : Registry) (s : Settings) :
    Except Failure Generation := do
  let report ← Pipeline.run { settings := s, cancelled } (.registry r) generationStages
  let staged ← report.output.toStaged
  pure { graph := staged.graph, bundle := staged.bundle, diagnostics := report.diagnostics }

def generate (r : Registry) (s : Settings) : Except Failure Generation := generateUnless false r s

/-- Discovery and all its checks, without any artifact. -/
def check (r : Registry) (s : Settings) : Except Failure ServiceGraph := do
  let report ← Pipeline.run { settings := s } (.registry r) [.discovery "discover"]
  report.output.toGraph

/-- `OK`, or why the generation failed. -/
inductive GenerationStatus
  | ok
  | failed (message : String)
  deriving Repr, DecidableEq, Inhabited

namespace GenerationStatus

def message : GenerationStatus → String
  | ok => "OK"
  | failed message => message

def isOk : GenerationStatus → Bool
  | ok => true
  | failed _ => false

end GenerationStatus

def generationStatus (r : Registry) (s : Settings) : GenerationStatus :=
  match generate r s with
  | .ok _ => .ok
  | .error e => .failed e.message

end RpcScaffold
