import Mathlib.Algebra.Ring.Nat
import RpcScaffold.Proofs.Code.Modules
import RpcScaffold.Proofs.Generation.References

/-!
# What a generation consists of

The paths and kinds of all that a generation stages can be told from its graph. No artifact is
missing and none is left over, and the three indexes name the files beside them.
-/

namespace RpcScaffold

open Code Text

/-! ## The files of a bundle -/

namespace Bundle

/-- What stands at which path, but for the texts. -/
def files (b : Bundle) : List (String × ArtifactKind) := b.toList.map fun a => (a.1, a.2.kind)

/-- The index of the directory names the modules of all artifacts of the kind, each once. -/
def Lists (b : Bundle) (directory : String) (index kind : ArtifactKind) : Prop :=
  ∃ text, b.get? (indexFile directory) = some ⟨index, text⟩ ∧ (declaredModules text).Nodup ∧
    ((declaredModules text).map (moduleFile directory)).Perm (b.pathsOf kind)

variable {b : Bundle}

theorem pathsOf_eq (kind : ArtifactKind) :
    b.pathsOf kind = (b.files.filter (·.2 == kind)).map (·.1) := by
  rw [files, List.filter_map, List.map_map]
  rfl

theorem Lists.of_modules {directory text : String} {index kind : ArtifactKind}
    {modules : List String} (hindex : b.get? (indexFile directory) = some ⟨index, text⟩)
    (htext : declaredModules text = modules) (hpaths : b.paths.Nodup)
    (hmodules : (b.pathsOf kind).Perm (modules.map (moduleFile directory))) :
    b.Lists directory index kind := by
  have hnodup : (b.pathsOf kind).Nodup := hpaths.sublist (List.filter_sublist.map _)
  refine ⟨text, hindex, ?_, ?_⟩
  · rw [htext]
    exact (hmodules.nodup_iff.mp hnodup).of_map
  · rw [htext]
    exact hmodules.symm

end Bundle

/-! ## The files of a graph -/

/-- The schema, an index for each directory, a converter for each message, and an adapter and a
proxy for each record. -/
def inventory (s : Settings) (g : ServiceGraph) : List (String × ArtifactKind) :=
  [(s.layout.schemaFile, .schema), (indexFile s.layout.convertersDir, .converterIndex),
    (indexFile s.layout.adaptersDir, .adapterIndex), (indexFile s.layout.proxiesDir, .proxyIndex)]
  ++ g.messages.toList.map (fun m =>
    (moduleFile s.layout.convertersDir (Naming.converterModule m.name), .converter))
  ++ g.records.map (fun record =>
    (moduleFile s.layout.adaptersDir (Naming.moduleOf (s.naming.adapterType record.shortName)),
      .adapter))
  ++ g.records.map fun record =>
    (moduleFile s.layout.proxiesDir (Naming.moduleOf (Naming.proxyType record.shortName)), .proxy)

/-- The bundle holds what belongs to the graph, and the numbers say so. -/
structure Generation.Inventoried (s : Settings) (gen : Generation) : Prop where
  files : gen.bundle.files.Perm (inventory s gen.graph)
  paths : gen.bundle.paths.Nodup
  converters : gen.bundle.Lists s.layout.convertersDir .converterIndex .converter
  adapters : gen.bundle.Lists s.layout.adaptersDir .adapterIndex .adapter
  proxies : gen.bundle.Lists s.layout.proxiesDir .proxyIndex .proxy
  stats : gen.stats = {
    services := gen.graph.records.length
    messages := gen.graph.messages.toList.length
    converters := gen.graph.messages.toList.length
    adapters := gen.graph.records.length
    proxies := gen.graph.records.length
    artifacts := gen.graph.messages.toList.length + 2 * gen.graph.records.length + 4
    bytes := (gen.bundle.toList.map fun a => a.2.text.utf8ByteSize).sum }

variable {r : Registry} {s : Settings} {g : ServiceGraph}

theorem inventory_eq : inventory s g =
    (listingArtifacts s g ++ moduleArtifacts s g).map fun a => (a.1, a.2.kind) := by
  simp only [inventory, listingArtifacts, moduleArtifacts, schemaArtifact, List.map_append,
    List.map_map, List.map_cons, List.map_nil, ← List.append_assoc]
  rfl

theorem length_inventory :
    (inventory s g).length = g.messages.toList.length + 2 * g.records.length + 4 := by
  simp only [inventory, List.length_append, List.length_map, List.length_cons, List.length_nil]
  omega

theorem filter_kind {α : Type} (f : α → String) (kind kind' : ArtifactKind) (xs : List α) :
    (xs.map fun x => (f x, kind)).filter (·.2 == kind') =
      if kind = kind' then xs.map (fun x => (f x, kind)) else [] := by
  rw [List.filter_map]
  split_ifs with h
  · simp [Function.comp_def, h]
  · simp [Function.comp_def, h]

theorem converters_inventory : ((inventory s g).filter (·.2 == .converter)).map (·.1) =
    g.converterModules.map (moduleFile s.layout.convertersDir) := by
  simp [inventory, ServiceGraph.converterModules, Catalog.names, filter_kind]

theorem adapters_inventory : ((inventory s g).filter (·.2 == .adapter)).map (·.1) =
    (g.adapterModules s.naming).map (moduleFile s.layout.adaptersDir) := by
  simp [inventory, ServiceGraph.adapterModules, filter_kind]

theorem proxies_inventory : ((inventory s g).filter (·.2 == .proxy)).map (·.1) =
    g.proxyModules.map (moduleFile s.layout.proxiesDir) := by
  simp [inventory, ServiceGraph.proxyModules, filter_kind]

/-! ## The modules of the indexes -/

theorem declaredModules_converterIndex (g : ServiceGraph) :
    declaredModules (Converter.renderIndex g.messages.toList) = g.converterModules := by
  have hmodules : ∀ module ∈ g.converterModules, '\n' ∉ module.toList := by
    rw [ServiceGraph.converterModules, Catalog.names, List.map_map, List.forall_mem_map]
    exact fun m _ => newline_not_mem (Converter.isNamed_converterModule m.name)
  have hindex : Converter.renderIndex g.messages.toList = render
      ([fileDoc "Domain <-> wire converters.", .blank] ++ g.converterModules.map moduleLine ++ []) := by
    simp only [Converter.renderIndex, Converter.indexSteps, ServiceGraph.converterModules,
      Catalog.names, List.map_map, List.append_nil, Function.comp_def]
  rw [hindex]
  exact declaredModules_render (by decide) (by decide) (by decide) NoModules.nil hmodules

/-- The lines that reexport the types are no modules. -/
theorem noModules_reexports {entries : List (String × String)}
    (h : ∀ e ∈ entries, '\n' ∉ e.1.toList ∧ '\n' ∉ e.2.toList) :
    NoModules (.blank :: entries.map fun e => .line s!"pub use {e.1}::{e.2};") := by
  have hlines : linesOf 0 (.blank :: entries.map fun e => .line s!"pub use {e.1}::{e.2};") =
      "" :: entries.map fun e => s!"pub use {e.1}::{e.2};" := by
    rw [linesOf, linesOf_eq, List.flatMap_map, List.map_eq_flatMap]
    simp [Step.lines, indentation]
  constructor
  · rw [arePlain_iff, List.forall_mem_cons, List.forall_mem_map]
    refine ⟨rfl, ?_⟩
    intro e _
    rw [Step.isPlain, Schema.not_isBlankText_of_mem (c := 'p') (by simp [toString]) rfl]
    rfl
  · rw [hlines, List.forall_mem_cons, List.forall_mem_map]
    refine ⟨by simp, ?_⟩
    intro e he
    simp [toString, h e he]
  · rw [hlines, List.forall_mem_cons, List.forall_mem_map]
    refine ⟨rfl, ?_⟩
    intro e _
    apply declaredModule?_eq_none
    simp [toString]

theorem declaredModules_serviceIndex {summary : String} (hsummary : summary ≠ "")
    (hnewline : '\n' ∉ summary.toList) (hreturn : '\r' ∉ summary.toList)
    {entries : List (String × String)}
    (h : ∀ e ∈ entries, '\n' ∉ e.1.toList ∧ '\n' ∉ e.2.toList) :
    declaredModules (render (serviceIndexSteps summary entries)) = entries.map (·.1) := by
  have hmodules : ∀ module ∈ entries.map (·.1), '\n' ∉ module.toList := by
    rw [List.forall_mem_map]
    exact fun e he => (h e he).1
  have hsteps : serviceIndexSteps summary entries =
      [fileDoc summary, .blank] ++ (entries.map (·.1)).map moduleLine ++
        .blank :: entries.map fun e => .line s!"pub use {e.1}::{e.2};" := by
    simp [serviceIndexSteps]
  rw [hsteps]
  exact declaredModules_render hsummary hnewline hreturn (noModules_reexports h) hmodules

theorem declaredModules_adapterIndex (hs : s.Sound) (g : ServiceGraph) :
    declaredModules (Adapter.renderIndex s g.records) = g.adapterModules s.naming := by
  have hentries : ∀ e ∈ Adapter.index s g.records, '\n' ∉ e.1.toList ∧ '\n' ∉ e.2.toList := by
    rw [Adapter.index, List.forall_mem_map]
    intro record _
    have htype : IsNamed (s.naming.adapterType record.shortName) :=
      ((isNamed_of_isIdentifier hs.wirePrefix).append (isNamed_upperCamel _)).append
        (isNamed_of_isIdentifier (by decide))
    exact ⟨newline_not_mem (isNamed_snakeCase _), newline_not_mem htype⟩
  rw [Adapter.renderIndex, declaredModules_serviceIndex (by decide) (by decide) (by decide) hentries,
    Adapter.index, List.map_map]
  rfl

theorem declaredModules_proxyIndex (g : ServiceGraph) :
    declaredModules (Proxy.renderIndex g.records) = g.proxyModules := by
  have hentries : ∀ e ∈ Proxy.index g.records, '\n' ∉ e.1.toList ∧ '\n' ∉ e.2.toList := by
    rw [Proxy.index, List.forall_mem_map]
    intro record _
    have htype : IsNamed (Naming.proxyType record.shortName) :=
      (isNamed_upperCamel _).append (isNamed_of_isIdentifier (by decide))
    exact ⟨newline_not_mem (isNamed_snakeCase _), newline_not_mem htype⟩
  rw [Proxy.renderIndex, declaredModules_serviceIndex (by decide) (by decide) (by decide) hentries,
    Proxy.index, List.map_map]
  rfl

/-! ## Runs -/

theorem totalSize_eq (texts : List String) :
    totalSize texts = (texts.map (·.utf8ByteSize)).sum := by
  induction texts with
  | nil => rfl
  | cons text rest ih => rw [totalSize, List.foldr_cons, ← totalSize, ih, List.map_cons, List.sum_cons]

section Runs

variable {gen : Generation} (h : generate r s = .ok gen)
include h

theorem toList_of_generate : gen.bundle.toList.Perm (artifactsOf s gen.graph) :=
  Bundle.toList_insertAll (insertAll_of_generate h)

theorem files_of_generate : gen.bundle.files.Perm (inventory s gen.graph) := by
  rw [inventory_eq]
  exact ((toList_of_generate h).trans artifactsOf_perm).map _

theorem paths_of_generate : gen.bundle.paths.Nodup := by
  have hpaths : gen.bundle.paths.Perm ((artifactsOf s gen.graph).map (·.1)) :=
    (toList_of_generate h).map _
  rw [hpaths.nodup_iff, ← exists_generate_iff_nodup (check_of_generate_eq_ok h)]
  exact ⟨gen, h⟩

theorem pathsOf_of_generate (kind : ArtifactKind) : (gen.bundle.pathsOf kind).Perm
    (((inventory s gen.graph).filter (·.2 == kind)).map (·.1)) := by
  rw [Bundle.pathsOf_eq]
  exact ((files_of_generate h).filter _).map _

theorem stats_of_generate : gen.stats = {
    services := gen.graph.records.length
    messages := gen.graph.messages.toList.length
    converters := gen.graph.messages.toList.length
    adapters := gen.graph.records.length
    proxies := gen.graph.records.length
    artifacts := gen.graph.messages.toList.length + 2 * gen.graph.records.length + 4
    bytes := (gen.bundle.toList.map fun a => a.2.text.utf8ByteSize).sum } := by
  have hcount : ∀ kind, gen.bundle.count kind =
      (((inventory s gen.graph).filter (·.2 == kind)).map (·.1)).length :=
    fun kind => (pathsOf_of_generate h kind).length_eq
  have hsize : gen.bundle.size = (inventory s gen.graph).length := by
    rw [← (files_of_generate h).length_eq, Bundle.files, List.length_map]
    rfl
  have hbytes : gen.bundle.totalBytes =
      (gen.bundle.toList.map fun a => a.2.text.utf8ByteSize).sum := by
    rw [Bundle.totalBytes, totalSize_eq, List.map_map]
    rfl
  rw [Generation.stats, hcount, hcount, hcount, converters_inventory, adapters_inventory,
    proxies_inventory, hsize, hbytes, length_inventory]
  simp [ServiceGraph.converterModules, ServiceGraph.adapterModules, ServiceGraph.proxyModules,
    Catalog.names, Catalog.toList, Catalog.size]

end Runs

/-- What is staged is what the graph asks for, each at its own path. -/
theorem generate_inventoried {gen : Generation} (h : generate r s = .ok gen) :
    gen.Inventoried s := by
  have hsound := Settings.sound_of_check (settings_of_generate h)
  have hpaths := paths_of_generate h
  refine ⟨files_of_generate h, hpaths, ?_, ?_, ?_, stats_of_generate h⟩
  · refine .of_modules (get?_converterIndex h) (declaredModules_converterIndex _) hpaths ?_
    rw [← converters_inventory]
    exact pathsOf_of_generate h .converter
  · refine .of_modules (get?_adapterIndex h) (declaredModules_adapterIndex hsound _) hpaths ?_
    rw [← adapters_inventory]
    exact pathsOf_of_generate h .adapter
  · refine .of_modules (get?_proxyIndex h) (declaredModules_proxyIndex _) hpaths ?_
    rw [← proxies_inventory]
    exact pathsOf_of_generate h .proxy

theorem generate_inventoried_pingPong : ∃ gen, generate (pingPong ["Echo"]) {} = .ok gen ∧
    gen.stats.artifacts = 8 ∧ gen.Inventoried {} := by
  obtain ⟨gen, hgen, hrecords, hmessages⟩ := exists_generate_pingPong
  have hinventoried := generate_inventoried hgen
  refine ⟨gen, hgen, ?_, hinventoried⟩
  rw [hinventoried.stats, hrecords, hmessages]
  rfl

end RpcScaffold
