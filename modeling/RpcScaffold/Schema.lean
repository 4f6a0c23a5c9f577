import RpcScaffold.Code.Writer
import RpcScaffold.Emitted
import RpcScaffold.Graph.Basic
import RpcScaffold.Settings.Basic

/-! # The schema

A schema is a package and a list of blocks, one for each service and for each message.
-/

namespace RpcScaffold

structure Schema.Rpc where
  name : String
  input : String
  output : String
  deriving Repr, DecidableEq, Inhabited

structure Schema.Field where
  type : String
  name : String
  ordinal : Nat
  deriving Repr, DecidableEq, Inhabited

inductive Schema.Block
  | service (name : String) (rpcs : List Schema.Rpc)
  | message (name : String) (fields : List Schema.Field)
  deriving Repr, DecidableEq, Inhabited

structure Schema where
  package : String
  blocks : List Schema.Block
  deriving Repr, DecidableEq, Inhabited

namespace Schema

open Code

/-! ## Text -/

def Rpc.line (r : Rpc) : String := s!"rpc {r.name} ({r.input}) returns ({r.output});"

def Field.line (f : Field) : String := s!"{f.type} {f.name} = {f.ordinal};"

def Block.step : Block → Step
  | .service name rpcs => .block ("service " ++ name) (rpcs.map fun r => .line r.line)
  | .message name fields => .block ("message " ++ name) (fields.map fun f => .line f.line)

def steps (s : Schema) : List Step :=
  [.line ("// " ++ notice), .blank, .line "syntax = \"proto3\";", .blank,
    .line ("package " ++ s.package ++ ";")]
  ++ s.blocks.flatMap fun b => [.blank, b.step]

def render (s : Schema) : String := Code.render s.steps

/-! ## Blocks of a graph -/

def Rpc.ofContract (n : Naming) (c : Contract) : Rpc where
  name := Naming.rpcMethod c.name
  input := n.wireMessage c.input
  output := n.wireMessage c.output

def Field.ofMessageField (f : Message.Field) : Field := ⟨f.schemaType, f.wireName, f.ordinal⟩

def Block.ofRecord (n : Naming) (r : ServiceRecord) : Block :=
  .service (n.wireService r.shortName) (r.methods.map (Rpc.ofContract n))

def Block.ofMessage (m : Message) : Block :=
  .message m.wireName (m.fields.map Field.ofMessageField)

/-- The blocks of the named messages that were not emitted before. -/
def messageBlocks (g : ServiceGraph) : List String → Emission (List Block)
  | [] => pure []
  | name :: rest => do
    if ← markEmitted name then
      let m ← g.message name
      let blocks ← messageBlocks g rest
      pure (Block.ofMessage m :: blocks)
    else messageBlocks g rest

/-- The block of a service, then those of its messages. -/
def recordBlocks (n : Naming) (g : ServiceGraph) (r : ServiceRecord) : Emission (List Block) := do
  let messages ← messageBlocks g r.referencedModels
  pure (Block.ofRecord n r :: messages)

def graphBlocks (n : Naming) (g : ServiceGraph) : List ServiceRecord → Emission (List Block)
  | [] => pure []
  | r :: rest => do
    let first ← recordBlocks n g r
    let more ← graphBlocks n g rest
    pure (first ++ more)

/-- The schema of a graph, and the names it emitted on top of those given. -/
def ofGraph (s : Settings) (g : ServiceGraph) (emitted : Emitted) :
    Except Failure Schema × Emitted :=
  let r := (graphBlocks s.naming g g.records).run emitted
  (r.1.map fun blocks => ⟨s.package, blocks⟩, r.2)

end Schema

end RpcScaffold
