import RpcScaffold.Graph.Outline
import RpcScaffold.Registry.Basic

/-! # What passes between the stages of a run -/

namespace RpcScaffold

/-! ## Diagnostics -/

inductive Level
  | info
  | warning
  | error
  deriving Repr, DecidableEq, Inhabited

def Level.text : Level → String
  | info => "info"
  | warning => "warning"
  | error => "error"

structure Diagnostic where
  level : Level
  code : String
  message : String
  /-- Values by key, in the order of the keys. -/
  data : List (String × String) := []
  deriving Repr, DecidableEq, Inhabited

/-! ## Data -/

/-- A graph and the artifacts that were made of it so far. -/
structure Staged where
  graph : ServiceGraph := {}
  bundle : Bundle := {}
  deriving Repr, DecidableEq, Inhabited

def Staged.outline (s : Staged) : Text.Outline :=
  .record "StagedRun" [("graph", s.graph.outline), ("bundle", s.bundle.outline)]

inductive StageData
  | none
  | registry (r : Registry)
  | graph (g : ServiceGraph)
  | staged (s : Staged)
  deriving Repr, DecidableEq, Inhabited

namespace StageData

def kind : StageData → String
  | none => "None"
  | registry _ => "Registry"
  | graph _ => "Graph"
  | staged _ => "Staged"

def toStaged : StageData → Except Failure Staged
  | staged s => .ok s
  | d => .error (.invalidArgument s!"expected staged pipeline data, got {d.kind}")

def toGraph : StageData → Except Failure ServiceGraph
  | graph g => .ok g
  | staged s => .ok s.graph
  | d => .error (.invalidArgument s!"expected a service graph, got {d.kind}")

/-- A refused value is shown with all its parts. -/
def toRegistry : StageData → Except Failure Registry
  | registry r => .ok r
  | none => refused (.word "None")
  | graph g => refused (.variant "Graph" [g.outline])
  | staged s => refused (.variant "Staged" [s.outline])
where
  refused (o : Text.Outline) : Except Failure Registry :=
    .error (.invalidArgument ("expected PipelineData::Registry, got " ++ o.print))

end StageData

end RpcScaffold
