import RpcScaffold.Message.Basic
import RpcScaffold.NameMap

/-! # The catalog of messages -/

namespace RpcScaffold

/-- Distinct messages in the order of their first insertion, with their places by name. -/
structure Catalog where
  messages : Array Message := #[]
  index : NameMap Nat := {}
  deriving Repr, DecidableEq, Inhabited

namespace Catalog

variable (c : Catalog)

def contains (name : String) : Bool := c.index.contains name

def get? (name : String) : Option Message := (c.index.get? name).bind (c.messages[·]?)

/-- The catalog with the message, unless one of that name is there. -/
def insert (m : Message) : Catalog :=
  if c.contains m.name then c
  else ⟨c.messages.push m, c.index.insert m.name c.messages.size⟩

/-- The catalog after the insertion, and whether the message was new to it. -/
def insertNew (m : Message) : Bool × Catalog := (!c.contains m.name, c.insert m)

def toList : List Message := c.messages.toList

def size : Nat := c.messages.size

def isEmpty : Bool := c.messages.isEmpty

end Catalog

end RpcScaffold
