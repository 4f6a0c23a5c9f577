import Mathlib.Algebra.Group.Nat.Defs
import Mathlib.Data.List.Forall2
import RpcScaffold.Graph.Discovery

/-!
# What discovery asks of a registry

Said over the declarations alone. `Acceptance.lean` shows that discovery accepts exactly these
registries.
-/

namespace RpcScaffold

/-! ## References between models -/

def Registry.names (r : Registry) : List String := r.models.map (·.name)

/-- A field of the model `name` has the type `target`, or elements of that type. -/
def Registry.Refers (r : Registry) (name target : String) : Prop :=
  ∃ m ∈ r.models, m.name = name ∧ ∃ f ∈ m.fields, f.type.referencedModel? = some target

/-- The least set of names that holds the seeds and all that its models refer to. -/
inductive Registry.Reachable (r : Registry) (seeds : List String) : String → Prop
  | seed {name : String} (h : name ∈ seeds) : r.Reachable seeds name
  | step {name target : String} (h : r.Reachable seeds name) (hr : r.Refers name target) :
    r.Reachable seeds target

/-! ## The models of a service -/

def DomainType.model? : DomainType → Option String
  | .named model => some model
  | _ => none

def Returns.model? : Returns → Option String
  | .async t => t.model?
  | _ => none

/-- The models that go in and come out. -/
def Method.models (m : Method) : List String :=
  m.params.filterMap DomainType.model? ++ m.returns.model?.toList

/-- The models listed on the service, then those of the methods of its first marked interface. -/
def Service.seeds (s : Service) : List String :=
  s.models ++ ((s.interfaces.find? (·.marked)).toList.flatMap (·.methods)).flatMap Method.models

/-- Some marked service needs the model. -/
def Registry.Exposes (r : Registry) (name : String) : Prop :=
  ∃ s ∈ r.markedServices, r.Reachable s.seeds name

/-! ## Accepted declarations -/

def Model.Field.wireName (n : Naming) (f : Model.Field) : String :=
  n.wireField f.name (Message.isTimestamp f.type)

/-- The fields make a message. -/
structure Model.Accepted (m : Model) (r : Registry) (n : Naming) : Prop where
  declared : ∀ f ∈ m.fields, ∀ target, f.type.referencedModel? = some target → target ∈ r.names
  mapped : ∀ f ∈ m.fields, ∃ w, WireMapping.ofType n f.type = .ok w
  distinct : (m.fields.map (·.wireName n)).Nodup
  few : m.fields.length < 2 ^ 32

/-- One declared model in, one declared model out. -/
def Method.Accepted (m : Method) (r : Registry) : Prop :=
  ∃ input ∈ r.names, ∃ output ∈ r.names,
    m.params = [.named input] ∧ m.returns = .async (.named output)

structure Interface.Accepted (i : Interface) (r : Registry) : Prop where
  methods : ∀ m ∈ i.methods, m.Accepted r
  distinct : (i.methods.map fun m => Naming.rpcMethod m.name).Nodup

structure Service.Accepted (s : Service) (r : Registry) (n : Naming) (short : String) : Prop where
  named : short ≠ "" ∧ s.name = short ++ n.serviceSuffix
  interface : ∃ i, s.interfaces.find? (·.marked) = some i ∧ i.Accepted r
  listed : ∀ name ∈ s.models, name ∈ r.names

/-- The identifiers that a model generates. -/
def Model.idents (n : Naming) (m : Model) : List String :=
  [n.wireMessage m.name, Naming.converterModule m.name]

/-- `shorts` are the short names of the marked services, in their order. -/
structure Registry.Accepted (r : Registry) (n : Naming) (shorts : List String) : Prop where
  nonempty : r.models ≠ [] ∨ r.services ≠ []
  identifiers : ∀ m ∈ r.models, isIdentifier m.name = true
  distinctNames : r.names.Nodup
  distinctIdents : (r.models.flatMap (·.idents n)).Nodup
  marked : r.markedServices ≠ []
  services : List.Forall₂ (fun s short => s.Accepted r n short) r.markedServices shorts
  distinctShorts : shorts.Nodup
  exposed : ∀ m ∈ r.models, r.Exposes m.name → m.Accepted r n
  distinctServices : (shorts.map n.wireService).Nodup
  services_ne_messages :
    ∀ short ∈ shorts, ∀ name, r.Exposes name → n.wireService short ≠ n.wireMessage name

end RpcScaffold
