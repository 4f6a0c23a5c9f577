import RpcScaffold.DomainType.Basic

/-! # Declared models and services

The generator reads no source code. It is handed a registry, an explicit list of declarations. What
they may say is decided later.
-/

namespace RpcScaffold

/-! ## Models -/

structure Model.Field where
  name : String
  type : DomainType
  nullable : Bool := false
  deriving Repr, DecidableEq, Inhabited

structure Model where
  name : String
  marked : Bool := false
  fields : List Model.Field := []
  deriving Repr, DecidableEq, Inhabited

/-! ## Services -/

/-- How a method hands back its result. -/
inductive Returns
  | async (type : DomainType)
  | stream (type : DomainType)
  | blocking (type : DomainType)
  | unit
  deriving Repr, DecidableEq, Inhabited

structure Method where
  name : String
  params : List DomainType := []
  returns : Returns
  deriving Repr, DecidableEq, Inhabited

/-- The contract that a service keeps. -/
structure Interface where
  name : String
  marked : Bool := true
  methods : List Method := []
  deriving Repr, DecidableEq, Inhabited

structure Service where
  name : String
  marked : Bool := true
  /-- Models named on the service itself. -/
  models : List String := []
  interfaces : List Interface := []
  deriving Repr, DecidableEq, Inhabited

/-! ## The registry -/

structure Registry where
  models : List Model := []
  services : List Service := []
  deriving Repr, DecidableEq, Inhabited

namespace Registry

def isEmpty (r : Registry) : Bool := r.models.isEmpty && r.services.isEmpty

/-- The first declaration of the name counts. -/
def model? (r : Registry) (name : String) : Option Model := r.models.find? (·.name == name)

def declares (r : Registry) (name : String) : Bool := (r.model? name).isSome

def markedServices (r : Registry) : List Service := r.services.filter (·.marked)

def markedModels (r : Registry) : List String := (r.models.filter (·.marked)).map (·.name)

def registerModel (r : Registry) (m : Model) : Registry := { r with models := r.models ++ [m] }

def registerService (r : Registry) (s : Service) : Registry :=
  { r with services := r.services ++ [s] }

end Registry

end RpcScaffold
