import RpcScaffold.Graph.Basic
import RpcScaffold.Naming
import RpcScaffold.Registry.Basic

/-! # Which services and methods are accepted -/

namespace RpcScaffold

/-- The name in front of the ending, which must not be all of the name. -/
def shortName (ending name : String) : Except Failure String :=
  let e := ending.toList
  let cs := name.toList
  if e <:+ cs ∧ e.length < cs.length then .ok (String.ofList (cs.take (cs.length - e.length)))
  else .error (.invalidServiceName name ending)

/-- The first interface with the service marker. -/
def Service.interface (s : Service) : Except Failure Interface :=
  match s.interfaces.find? (·.marked) with
  | some i => .ok i
  | none => .error (.missingInterface s.name)

def Method.declaredModel (m : Method) (r : Registry) (t : DomainType) : Except Failure String :=
  let unknown := .error (.unknownModel s!"Service method {m.name}" t.print)
  match t with
  | .named model => if r.declares model then .ok model else unknown
  | _ => unknown

/-- One declared model goes in and one comes out asynchronously. -/
def Method.contract (m : Method) (r : Registry) : Except Failure Contract :=
  match m.params with
  | [] => .error (.methodArity m.name "requires one input parameter")
  | [input] =>
    match m.returns with
    | .async output => do
      let input ← m.declaredModel r input
      let output ← m.declaredModel r output
      pure { name := m.name, input, output }
    | .stream _ | .blocking _ | .unit => .error (.methodReturnShape m.name)
  | _ => .error (.methodArity m.name "has more than one parameter")

/-- The contracts of the methods, after methods with the rpc names `taken`. -/
def Interface.contractsFrom (i : Interface) (r : Registry) (taken : List String) :
    List Method → Except Failure (List Contract)
  | [] => .ok []
  | m :: rest => do
    let c ← m.contract r
    if taken.contains (Naming.rpcMethod c.name) then
      throw (.invalidArgument s!"interface {i.name} declares method {c.name} twice")
    else
      let cs ← i.contractsFrom r (Naming.rpcMethod c.name :: taken) rest
      pure (c :: cs)

def Interface.contracts (i : Interface) (r : Registry) :
    Except Failure (List Contract) := i.contractsFrom r [] i.methods

end RpcScaffold
