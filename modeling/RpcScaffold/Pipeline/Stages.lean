import RpcScaffold.Converter.Module
import RpcScaffold.Files.Path
import RpcScaffold.Graph.Discovery
import RpcScaffold.Pipeline.Run
import RpcScaffold.Schema
import RpcScaffold.Service.Proxy
import RpcScaffold.Settings.Check

/-! # The stages of a generation

Discovery makes a graph of the registry, and all checks are done there. Each further stage stages
one kind of artifact.
-/

namespace RpcScaffold

/-- A cancelled stage stops at the first service. -/
def stopIfCancelled (cancelled : Bool) (g : ServiceGraph) : Except Failure Unit :=
  if cancelled && !g.records.isEmpty then .error .cancelled else .ok ()

def note (code message : String) (data : List (String × String)) : Diagnostic :=
  { level := .info, code, message, data }

/-! ## Discovery and schema -/

def Stage.discovery (id : String) : Stage where
  id := id
  run s _ input := do
    let registry ← input.toRegistry
    s.check
    let graph ← discover registry s.naming
    pure {
      data := .graph graph
      notes := [note "discover.complete" "service graph built" [
        ("messages", toString graph.messages.size), ("services", toString graph.records.length)]] }

/-- The schema is the first artifact: what was staged before is dropped. -/
def Stage.schema (id : String) : Stage where
  id := id
  run s cancelled input := do
    let graph ← input.toGraph
    stopIfCancelled cancelled graph
    let (schema, emitted) := Schema.ofGraph s graph {}
    let bundle ← ({} : Bundle).insert s.layout.schemaFile .schema (← schema).render
    pure {
      data := .staged { graph, bundle }
      notes := [note "emit.schema" s!"{emitted.size} messages in schema" []] }

/-! ## Converters -/

/-- Every model that a service references, once. -/
def ServiceGraph.referencedModels (g : ServiceGraph) : List String :=
  ({} : Emitted).markNew (g.records.flatMap (·.referencedModels))

def indexFile (directory : String) : String := Path.inDirectory directory "mod.rs"

def moduleFile (directory module : String) : String := Path.inDirectory directory (module ++ ".rs")

def converterFile (s : Settings) (model : String) : String :=
  moduleFile s.layout.convertersDir (Naming.converterModule model)

def stageConverter (s : Settings) (g : ServiceGraph) (b : Bundle) (model : String) :
    Except Failure Bundle := do
  let message ← g.message model
  b.insert (converterFile s model) .converter (Converter.Module.ofMessage s message).render

def Stage.converters (id : String) : Stage where
  id := id
  run s cancelled input := do
    let staged ← input.toStaged
    let graph := staged.graph
    stopIfCancelled cancelled graph
    let models := graph.referencedModels
    let bundle ← models.foldlM (stageConverter s graph) staged.bundle
    let index := Converter.renderIndex (models.filterMap graph.messages.get?)
    let bundle ← bundle.insert (indexFile s.layout.convertersDir) .converterIndex index
    pure {
      data := .staged { graph, bundle }
      notes := [note "emit.converters" s!"{models.length} converters staged" []] }

/-! ## Adapters and proxies -/

def adapterFile (s : Settings) (r : ServiceRecord) : String :=
  moduleFile s.layout.adaptersDir (Naming.moduleOf (s.naming.adapterType r.shortName))

def proxyFile (s : Settings) (r : ServiceRecord) : String :=
  moduleFile s.layout.proxiesDir (Naming.moduleOf (Naming.proxyType r.shortName))

def Stage.adapters (id : String) : Stage where
  id := id
  run s cancelled input := do
    let staged ← input.toStaged
    let records := staged.graph.records
    stopIfCancelled cancelled staged.graph
    let bundle ← records.foldlM (fun b r =>
      b.insert (adapterFile s r) .adapter (Adapter.ofRecord s r).render) staged.bundle
    let index := Adapter.renderIndex s records
    let bundle ← bundle.insert (indexFile s.layout.adaptersDir) .adapterIndex index
    pure {
      data := .staged { staged with bundle }
      notes := [note "emit.adapters" s!"{records.length} adapters staged" []] }

def Stage.proxies (id : String) : Stage where
  id := id
  run s cancelled input := do
    let staged ← input.toStaged
    let records := staged.graph.records
    stopIfCancelled cancelled staged.graph
    let bundle ← records.foldlM (fun b r =>
      b.insert (proxyFile s r) .proxy (Proxy.ofRecord s r).render) staged.bundle
    let index := Proxy.renderIndex records
    let bundle ← bundle.insert (indexFile s.layout.proxiesDir) .proxyIndex index
    pure {
      data := .staged { staged with bundle }
      notes := [note "emit.proxies" s!"{records.length} proxies staged" []] }

end RpcScaffold
