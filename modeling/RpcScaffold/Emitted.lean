import RpcScaffold.Failure

/-! # Names emitted so far -/

namespace RpcScaffold

/-- A set of names, each held once. -/
structure Emitted where
  names : List String := []
  deriving Repr, DecidableEq, Inhabited

namespace Emitted

def contains (e : Emitted) (name : String) : Bool := e.names.contains name

/-- The set with the name. -/
def insert (e : Emitted) (name : String) : Emitted :=
  if e.contains name then e else ⟨name :: e.names⟩

/-- The names that are not marked yet. Each is marked when it is met. -/
def markNew (e : Emitted) : List String → List String
  | [] => []
  | name :: rest =>
    if e.contains name then e.markNew rest else name :: (e.insert name).markNew rest

def size (e : Emitted) : Nat := e.names.length

def isEmpty (e : Emitted) : Bool := e.names.isEmpty

end Emitted

/-- An emission may fail. The names it marked before stay marked. -/
abbrev Emission := ExceptT Failure (StateM Emitted)

/-- Marks the name, and says whether it was not marked before. -/
def markEmitted (name : String) : Emission Bool := do
  let emitted ← get
  set (emitted.insert name)
  pure !(emitted.contains name)

end RpcScaffold
