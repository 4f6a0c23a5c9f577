import RpcScaffold.Graph.Contracts
import RpcScaffold.Graph.Reach
import RpcScaffold.Message.Build
import RpcScaffold.Settings.Basic
import RpcScaffold.Text.Quoted

/-! # Discovery

From a registry to its service graph. Every service is checked before anything is emitted.
-/

namespace RpcScaffold

/-! ## Models -/

/-- Records that `owner` generates `ident`. `taken` are identifiers with their owners. -/
def claimIdent (taken : List (String × String)) (owner ident : String) :
    Except Failure (List (String × String)) :=
  match taken.lookup ident with
  | some first => .error (.nameCollision ident first owner)
  | none => .ok ((ident, owner) :: taken)

/-- Names are identifiers and distinct, and so are the wire messages and converter modules derived
from them, all in one name space. -/
def checkModels (n : Naming) (seen : List String) (taken : List (String × String)) :
    List Model → Except Failure Unit
  | [] => .ok ()
  | m :: rest => do
    if !isIdentifier m.name then
      throw (.invalidArgument ("model name must be an identifier: " ++ Text.quoted m.name))
    if seen.contains m.name then throw (.duplicateModel m.name)
    let taken ← claimIdent taken m.name (n.wireMessage m.name)
    let taken ← claimIdent taken m.name (Naming.converterModule m.name)
    checkModels n (m.name :: seen) taken rest

/-! ## Services -/

/-- The records of the services. `taken` are short names with the services they come from. -/
def serviceRecords (r : Registry) (n : Naming) (taken : List (String × String)) :
    List Service → Except Failure (List ServiceRecord)
  | [] => .ok []
  | s :: rest => do
    let short ← shortName n.serviceSuffix s.name
    if let some first := taken.lookup short then
      throw (.serviceNameCollision short first s.name)
    let interface ← s.interface
    let methods ← interface.contracts r
    let referencedModels ← s.reach methods r
    let records ← serviceRecords r n ((short, s.name) :: taken) rest
    pure ({ serviceName := s.name, shortName := short, interfaceName := interface.name, methods,
            referencedModels } :: records)

/-! ## Messages -/

/-- The messages of the names, each built once. -/
def catalogOf (r : Registry) (n : Naming) (catalog : Catalog) :
    List String → Except Failure Catalog
  | [] => .ok catalog
  | name :: rest => do
    if catalog.contains name then catalogOf r n catalog rest
    else
      match r.model? name with
      | none => throw (.invariant s!"model {name} vanished")
      | some m =>
        let message ← Message.ofModel n m
        catalogOf r n (catalog.insert message) rest

/-- Services share the package with messages, and two short names may still give one wire service.
`taken` are wire services with the services they come from. -/
def checkWireServices (n : Naming) (messages : List Message) (taken : List (String × String)) :
    List ServiceRecord → Except Failure Unit
  | [] => .ok ()
  | record :: rest => do
    let wire := n.wireService record.shortName
    if let some m := messages.find? (·.wireName == wire) then
      throw (.nameCollision wire record.serviceName s!"model {m.name}")
    let taken ← claimIdent taken record.serviceName wire
    checkWireServices n messages taken rest

/-! ## All of it -/

def discover (r : Registry) (n : Naming) : Except Failure ServiceGraph := do
  if r.isEmpty then throw (.emptyInput "type registry has no types")
  checkModels n [] [] r.models
  if r.markedServices.isEmpty then throw (.emptyInput "no types carry the service marker")
  let records ← serviceRecords r n [] r.markedServices
  let messages ← catalogOf r n {} (records.flatMap (·.referencedModels))
  checkWireServices n messages.toList [] records
  pure { records, messages }

end RpcScaffold
