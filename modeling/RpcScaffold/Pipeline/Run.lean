import RpcScaffold.Pipeline.Data
import RpcScaffold.Settings.Basic

/-! # Runs of stages

A run passes data through a list of stages. The first failure ends it, and a cancelled run starts no
further stage.
-/

namespace RpcScaffold

/-- What a stage makes of its input. -/
structure StageResult where
  data : StageData
  notes : List Diagnostic := []
  /-- The stage cancels the run. -/
  cancels : Bool := false
  deriving Repr, DecidableEq, Inhabited

/-- A stage reads the settings and whether the run is cancelled, and can change neither but by
cancelling. -/
structure Stage where
  id : String
  run : Settings → Bool → StageData → Except Failure StageResult

/-- The diagnostics of a stage between its start and its end. -/
def Stage.log (s : Stage) (notes : List Diagnostic) : List Diagnostic :=
  { level := .info, code := "pipeline.stage.start", message := "starting stage " ++ s.id }
    :: notes
    ++ [{ level := .info, code := "pipeline.stage.end", message := "completed stage " ++ s.id }]

namespace Pipeline

structure Context where
  settings : Settings := {}
  cancelled : Bool := false
  diagnostics : List Diagnostic := []
  deriving Repr, DecidableEq, Inhabited

/-- The context after a stage that ended with `r`. -/
def Context.after (c : Context) (s : Stage) (r : StageResult) : Context :=
  { c with
    cancelled := c.cancelled || r.cancels
    diagnostics := c.diagnostics ++ s.log r.notes }

structure Report where
  output : StageData
  diagnostics : List Diagnostic
  cancelled : Bool
  deriving Repr, DecidableEq, Inhabited

def Report.hasErrors (r : Report) : Bool := r.diagnostics.any (·.level == .error)

def Report.warnings (r : Report) : Nat := r.diagnostics.countP (·.level == .warning)

def run (c : Context) (data : StageData) : List Stage → Except Failure Report
  | [] => .ok { output := data, diagnostics := c.diagnostics, cancelled := c.cancelled }
  | s :: rest => do
    if c.cancelled then throw .cancelled
    let r ← s.run c.settings c.cancelled data
    run (c.after s r) r.data rest

end Pipeline

end RpcScaffold
