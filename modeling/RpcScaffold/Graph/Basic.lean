import RpcScaffold.Failure
import RpcScaffold.Message.Catalog

/-! # The service graph

What discovery makes of a registry. The emitters only read it.
-/

namespace RpcScaffold

/-- One message in, one message out, both by the name of their model. -/
structure Contract where
  name : String
  input : String
  output : String
  deriving Repr, DecidableEq, Inhabited

structure ServiceRecord where
  serviceName : String
  /-- The service name without its ending. -/
  shortName : String
  interfaceName : String
  methods : List Contract
  /-- Every model the service touches, each once. -/
  referencedModels : List String
  deriving Repr, DecidableEq, Inhabited

structure ServiceGraph where
  records : List ServiceRecord := []
  messages : Catalog := {}
  deriving Repr, DecidableEq, Inhabited

namespace ServiceGraph

def message (g : ServiceGraph) (name : String) : Except Failure Message :=
  match g.messages.get? name with
  | some m => .ok m
  | none => .error (.invariant s!"message {name} missing from catalog")

end ServiceGraph

/-- The models of the methods, each at its first occurrence. -/
def ServiceRecord.methodModels (r : ServiceRecord) : List String :=
  (r.methods.flatMap fun m => [m.input, m.output]).foldl
    (fun seen name => if seen.contains name then seen else seen ++ [name]) []

end RpcScaffold
