import RpcScaffold.Graph.Basic
import RpcScaffold.Registry.Basic

/-! # The models a service reaches

From the models named by a service and its methods, field references are followed breadth first.
Every step takes a model from those not visited yet, so the search ends on any registry.
-/

namespace RpcScaffold

/-- The models that the fields refer to, in order. All of them have to be declared. -/
def Model.references (m : Model) (r : Registry) : Except Failure (List String) :=
  let unknown? := m.fields.find? fun f => f.type.referencedModel?.any fun name => !r.declares name
  match unknown? with
  | some f =>
    .error (.unknownModel s!"Field {m.name}.{f.name}" (f.type.referencedModel?.getD ""))
  | none => .ok (m.fields.filterMap (·.type.referencedModel?))

/-- `fresh` are the models not visited yet. A name in the queue that is not among them was visited
before. -/
def reachFrom (r : Registry) (fresh : List Model) : List String → Except Failure (List String)
  | [] => .ok []
  | name :: queue =>
    match _h : fresh.find? (·.name == name) with
    | none => reachFrom r fresh queue
    | some m => do
      let next ← m.references r
      let names ← reachFrom r (fresh.eraseP (·.name == name)) (queue ++ next)
      pure (name :: names)
termination_by queue => (fresh.length, queue.length)
decreasing_by
  · exact Prod.Lex.right _ (by simp)
  · refine Prod.Lex.left _ _ ?_
    have hm := List.find?_some _h
    have hmem := List.mem_of_find?_eq_some _h
    rw [List.length_eraseP_of_mem hmem hm]
    have := List.length_pos_of_mem hmem
    omega

/-- The models named on the service, then those of its methods, then all that fields lead to. -/
def Service.reach (s : Service) (methods : List Contract) (r : Registry) :
    Except Failure (List String) :=
  match s.models.find? fun name => !r.declares name with
  | some name => .error (.unknownModel s!"Service {s.name}" name)
  | none =>
    reachFrom r r.models (s.models ++ methods.flatMap fun m => [m.input, m.output])

end RpcScaffold
