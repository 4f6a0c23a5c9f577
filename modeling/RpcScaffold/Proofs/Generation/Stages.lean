import RpcScaffold.Proofs.Generation.Staging
import RpcScaffold.Proofs.Schema.Complete

/-! # What the stages of a generation stage -/

namespace RpcScaffold

/-! ## The artifacts of a graph -/

def schemaArtifact (s : Settings) (g : ServiceGraph) : String × Artifact :=
  (s.layout.schemaFile, ⟨.schema, (Schema.ofItems s (Schema.items g [] g.records)).render⟩)

def converterArtifacts (s : Settings) (g : ServiceGraph) : List (String × Artifact) :=
  g.messages.toList.map (fun m =>
    (converterFile s m.name, ⟨.converter, (Converter.Module.ofMessage s m).render⟩))
  ++ [(indexFile s.layout.convertersDir,
    ⟨.converterIndex, Converter.renderIndex g.messages.toList⟩)]

def adapterArtifacts (s : Settings) (g : ServiceGraph) : List (String × Artifact) :=
  g.records.map (fun r => (adapterFile s r, ⟨.adapter, (Adapter.ofRecord s r).render⟩))
  ++ [(indexFile s.layout.adaptersDir, ⟨.adapterIndex, Adapter.renderIndex s g.records⟩)]

def proxyArtifacts (s : Settings) (g : ServiceGraph) : List (String × Artifact) :=
  g.records.map (fun r => (proxyFile s r, ⟨.proxy, (Proxy.ofRecord s r).render⟩))
  ++ [(indexFile s.layout.proxiesDir, ⟨.proxyIndex, Proxy.renderIndex g.records⟩)]

def artifactsOf (s : Settings) (g : ServiceGraph) : List (String × Artifact) :=
  schemaArtifact s g :: (converterArtifacts s g ++ adapterArtifacts s g ++ proxyArtifacts s g)

/-- The artifacts that are made of all records and messages together. -/
def listingArtifacts (s : Settings) (g : ServiceGraph) : List (String × Artifact) := [
  schemaArtifact s g,
  (indexFile s.layout.convertersDir,
    ⟨.converterIndex, Converter.renderIndex g.messages.toList⟩),
  (indexFile s.layout.adaptersDir, ⟨.adapterIndex, Adapter.renderIndex s g.records⟩),
  (indexFile s.layout.proxiesDir, ⟨.proxyIndex, Proxy.renderIndex g.records⟩)]

/-- The artifacts that are made of one message or one record each. -/
def moduleArtifacts (s : Settings) (g : ServiceGraph) : List (String × Artifact) :=
  g.messages.toList.map (fun m =>
    (converterFile s m.name, ⟨.converter, (Converter.Module.ofMessage s m).render⟩))
  ++ g.records.map (fun r => (adapterFile s r, ⟨.adapter, (Adapter.ofRecord s r).render⟩))
  ++ g.records.map fun r => (proxyFile s r, ⟨.proxy, (Proxy.ofRecord s r).render⟩)

variable {r : Registry} {s : Settings} {g : ServiceGraph}

theorem artifactsOf_perm :
    (artifactsOf s g).Perm (listingArtifacts s g ++ moduleArtifacts s g) := by
  rw [List.perm_iff_count]
  intro a
  simp only [artifactsOf, converterArtifacts, adapterArtifacts, proxyArtifacts, listingArtifacts,
    moduleArtifacts, List.count_append, List.count_cons, List.count_nil]
  omega

/-- A converter, an adapter or a proxy is made of one message or record. -/
theorem mem_artifactsOf_iff {kind : ArtifactKind} (hkind : kind ∈ [.converter, .adapter, .proxy])
    {path text : String} : (path, ⟨kind, text⟩) ∈ artifactsOf s g ↔
      (∃ m ∈ g.messages.toList, (converterFile s m.name, Artifact.mk .converter
        (Converter.Module.ofMessage s m).render) = (path, ⟨kind, text⟩)) ∨
      (∃ record ∈ g.records, (adapterFile s record, Artifact.mk .adapter
        (Adapter.ofRecord s record).render) = (path, ⟨kind, text⟩)) ∨
      ∃ record ∈ g.records, (proxyFile s record, Artifact.mk .proxy
        (Proxy.ofRecord s record).render) = (path, ⟨kind, text⟩) := by
  have hsingle : kind ≠ .schema ∧ kind ≠ .converterIndex ∧ kind ≠ .adapterIndex ∧
      kind ≠ .proxyIndex := by
    revert kind
    decide
  obtain ⟨hschema, hconverters, hadapters, hproxies⟩ := hsingle
  simp only [artifactsOf, schemaArtifact, converterArtifacts, adapterArtifacts, proxyArtifacts,
    List.mem_cons, List.mem_append, List.mem_map, List.not_mem_nil, Prod.mk.injEq,
    Artifact.mk.injEq, hschema, hconverters, hadapters, hproxies, false_and, and_false, or_false,
    false_or, or_assoc]

/-! ## Stages -/

/-- The stage adds the artifacts to what was staged before, and does nothing else. -/
def Stage.Adds (stage : Stage) (s : Settings) (g : ServiceGraph)
    (artifacts : List (String × Artifact)) : Prop :=
  ∃ notes, ∀ b : Bundle, stage.run s false (.staged ⟨g, b⟩) =
    (b.insertAll artifacts).map fun b' => { data := .staged ⟨g, b'⟩, notes }

theorem adds_adapters (id : String) : (Stage.adapters id).Adds s g (adapterArtifacts s g) := by
  refine ⟨[note "emit.adapters" s!"{g.records.length} adapters staged" []], fun b => ?_⟩
  have hrun : (Stage.adapters id).run s false (.staged ⟨g, b⟩) =
      g.records.foldlM (fun b r =>
        b.insert (adapterFile s r) .adapter (Adapter.ofRecord s r).render) b >>= fun b =>
      b.insert (indexFile s.layout.adaptersDir) .adapterIndex (Adapter.renderIndex s g.records) >>=
      fun b => pure {
        data := .staged ⟨g, b⟩
        notes := [note "emit.adapters" s!"{g.records.length} adapters staged" []] } := rfl
  rw [hrun, adapterArtifacts, Bundle.map_insertAll_concat, Bundle.insertAll_map]

theorem adds_proxies (id : String) : (Stage.proxies id).Adds s g (proxyArtifacts s g) := by
  refine ⟨[note "emit.proxies" s!"{g.records.length} proxies staged" []], fun b => ?_⟩
  have hrun : (Stage.proxies id).run s false (.staged ⟨g, b⟩) =
      g.records.foldlM (fun b r =>
        b.insert (proxyFile s r) .proxy (Proxy.ofRecord s r).render) b >>= fun b =>
      b.insert (indexFile s.layout.proxiesDir) .proxyIndex (Proxy.renderIndex g.records) >>=
      fun b => pure {
        data := .staged ⟨g, b⟩
        notes := [note "emit.proxies" s!"{g.records.length} proxies staged" []] } := rfl
  rw [hrun, proxyArtifacts, Bundle.map_insertAll_concat, Bundle.insertAll_map]

/-- The converters of the models that have a message. -/
def convertersOf (s : Settings) (g : ServiceGraph) (models : List String) :
    List (String × Artifact) :=
  models.filterMap fun model => (g.messages.get? model).map fun m =>
    (converterFile s model, ⟨.converter, (Converter.Module.ofMessage s m).render⟩)

/-- Every model that a service references has a message. -/
def ServiceGraph.Known (g : ServiceGraph) : Prop :=
  ∀ model ∈ g.referencedModels, ∃ m, g.messages.get? model = some m

theorem foldlM_stageConverter {models : List String}
    (h : ∀ model ∈ models, ∃ m, g.messages.get? model = some m) (b : Bundle) :
    models.foldlM (stageConverter s g) b = b.insertAll (convertersOf s g models) := by
  induction models generalizing b with
  | nil => rfl
  | cons model rest ih =>
    obtain ⟨⟨m, hm⟩, hrest⟩ := List.forall_mem_cons.mp h
    have hstage : stageConverter s g b model =
        b.insert (converterFile s model) .converter (Converter.Module.ofMessage s m).render := by
      rw [stageConverter, ServiceGraph.message, hm]
      rfl
    have hcons : convertersOf s g (model :: rest) = (converterFile s model,
        ⟨.converter, (Converter.Module.ofMessage s m).render⟩) :: convertersOf s g rest := by
      rw [convertersOf, List.filterMap_cons, hm]
      rfl
    rw [List.foldlM_cons, hstage, hcons, Bundle.insertAll_cons]
    congr 1
    funext b'
    exact ih hrest b'

/-- The converters of the models that the services reference, and their index. -/
def referencedConverters (s : Settings) (g : ServiceGraph) : List (String × Artifact) :=
  convertersOf s g g.referencedModels ++ [(indexFile s.layout.convertersDir,
    ⟨.converterIndex, Converter.renderIndex (g.referencedModels.filterMap g.messages.get?)⟩)]

/-- The models come before the index. -/
theorem converters_run (id : String) (b : Bundle) :
    (Stage.converters id).run s false (.staged ⟨g, b⟩) =
      g.referencedModels.foldlM (stageConverter s g) b >>= fun b =>
      b.insert (indexFile s.layout.convertersDir) .converterIndex
        (Converter.renderIndex (g.referencedModels.filterMap g.messages.get?)) >>=
      fun b => pure {
        data := .staged ⟨g, b⟩
        notes := [note "emit.converters" s!"{g.referencedModels.length} converters staged" []] } :=
  rfl

theorem adds_referencedConverters (h : g.Known) (id : String) :
    (Stage.converters id).Adds s g (referencedConverters s g) := by
  refine ⟨[note "emit.converters" s!"{g.referencedModels.length} converters staged" []],
    fun b => ?_⟩
  rw [converters_run, referencedConverters, Bundle.map_insertAll_concat, foldlM_stageConverter h]

theorem markNew_eq_pending (e : Emitted) (names : List String) :
    e.markNew names = pending e.names names := by
  induction names generalizing e with
  | nil => rfl
  | cons name rest ih =>
    rw [Emitted.markNew, ih, ih]
    by_cases hname : name ∈ e.names
    · rw [pending_cons_of_mem hname, if_pos (by simpa [Emitted.contains] using hname)]
    · have hmarks : pending (e.insert name).names rest = pending (e.names ++ [name]) rest := by
        apply pending_congr
        intro x
        rw [Schema.mem_insert, List.mem_append, List.mem_singleton]
      rw [pending_cons_of_not_mem hname, if_neg (by simpa [Emitted.contains] using hname), hmarks]

/-- The models that the services reference are those with a message, in the same order. -/
theorem referencedModels_eq (h : Discovers r s.naming g) : g.referencedModels = g.messages.names := by
  rw [h.messages, ServiceGraph.referencedModels, markNew_eq_pending]

theorem referencedConverters_eq (h : Discovers r s.naming g) :
    referencedConverters s g = converterArtifacts s g := by
  have hmessage : ∀ m ∈ g.messages.toList, g.messages.get? m.name = some m :=
    fun m hm => h.built.indexed.get?_eq_some.mpr ⟨hm, rfl⟩
  have hindex : g.referencedModels.filterMap g.messages.get? = g.messages.toList := by
    rw [referencedModels_eq h, h.filterMap_get?_names]
  rw [referencedConverters, hindex, converterArtifacts, convertersOf, referencedModels_eq h,
    Catalog.names, List.filterMap_map, ← List.filterMap_eq_map]
  congr 1
  apply List.filterMap_congr
  intro m hm
  simp [hmessage m hm]

theorem adds_converters (h : Discovers r s.naming g) (id : String) :
    (Stage.converters id).Adds s g (converterArtifacts s g) := by
  have hknown : g.Known := by
    intro model hmodel
    rw [referencedModels_eq h, Catalog.names] at hmodel
    obtain ⟨m, hm, rfl⟩ := List.mem_map.mp hmodel
    exact ⟨m, h.built.indexed.get?_eq_some.mpr ⟨hm, rfl⟩⟩
  rw [← referencedConverters_eq h]
  exact adds_referencedConverters hknown id

/-- The schema is staged in an empty bundle. -/
theorem schema_run (h : Discovers r s.naming g) (id : String) : ∃ notes,
    (Stage.schema id).run s false (.graph g) =
      (({} : Bundle).insertAll [schemaArtifact s g]).map fun b =>
        { data := .staged ⟨g, b⟩, notes } := by
  refine ⟨[note "emit.schema" s!"{(Schema.ofGraph s g {}).2.size} messages in schema" []], ?_⟩
  have hrun : (Stage.schema id).run s false (.graph g) =
      (Schema.ofGraph s g {}).1 >>= fun schema =>
      ({} : Bundle).insert s.layout.schemaFile .schema schema.render >>= fun b => pure {
        data := .staged ⟨g, b⟩
        notes := [note "emit.schema" s!"{(Schema.ofGraph s g {}).2.size} messages in schema" []] } := rfl
  have hone : [schemaArtifact s g] = [] ++ [(s.layout.schemaFile,
      ⟨.schema, (Schema.ofItems s (Schema.items g [] g.records)).render⟩)] := rfl
  rw [hrun, Schema.ofGraph_eq_ok h, hone, Bundle.map_insertAll_concat]
  rfl

/-! ## Runs -/

theorem run_adds {stages : List Stage} {parts : List (List (String × Artifact))}
    (h : List.Forall₂ (fun stage part => stage.Adds s g part) stages parts) {c : Pipeline.Context}
    (hc : c.cancelled = false) (hs : c.settings = s) :
    ∃ diagnostics, ∀ b : Bundle, Pipeline.run c (.staged ⟨g, b⟩) stages =
      (b.insertAll parts.flatten).map fun b' => ⟨.staged ⟨g, b'⟩, diagnostics, false⟩ := by
  induction h generalizing c with
  | nil =>
    refine ⟨c.diagnostics, fun b => ?_⟩
    rw [Pipeline.run, hc]
    rfl
  | @cons stage part stages parts hstage _ ih =>
    obtain ⟨notes, hnotes⟩ := hstage
    have hafter : ∀ b' : Bundle, c.after stage { data := .staged ⟨g, b'⟩, notes } =
        { c with diagnostics := c.diagnostics ++ stage.log notes } := by
      intro b'
      simp [Pipeline.Context.after]
    obtain ⟨diagnostics, hrest⟩ :=
      @ih { c with diagnostics := c.diagnostics ++ stage.log notes } hc hs
    refine ⟨diagnostics, fun b => ?_⟩
    rw [Pipeline.run_cons hc, hs, hnotes, List.flatten_cons, Bundle.insertAll_append]
    cases b.insertAll part with
    | error e => rfl
    | ok b' =>
      change Pipeline.run (c.after stage { data := .staged ⟨g, b'⟩, notes }) (.staged ⟨g, b'⟩) stages = _
      rw [hafter, hrest]
      rfl

/-- The stages after discovery, from the graph on. -/
theorem run_emission (h : Discovers r s.naming g) {c : Pipeline.Context}
    (hc : c.cancelled = false) (hs : c.settings = s) :
    ∃ diagnostics, Pipeline.run c (.graph g) [.schema "emit.schema", .converters "emit.converters",
        .adapters "emit.adapters", .proxies "emit.proxies"] =
      (({} : Bundle).insertAll (artifactsOf s g)).map fun b =>
        ⟨.staged ⟨g, b⟩, diagnostics, false⟩ := by
  obtain ⟨notes, hschema⟩ := schema_run h "emit.schema"
  have hafter : ∀ b : Bundle,
      c.after (.schema "emit.schema") { data := .staged ⟨g, b⟩, notes } =
        { c with diagnostics := c.diagnostics ++ (Stage.schema "emit.schema").log notes } := by
    intro b
    simp [Pipeline.Context.after]
  have hadds : List.Forall₂ (fun (stage : Stage) part => stage.Adds s g part)
      [.converters "emit.converters", .adapters "emit.adapters", .proxies "emit.proxies"]
      [converterArtifacts s g, adapterArtifacts s g, proxyArtifacts s g] :=
    .cons (adds_converters h _) (.cons (adds_adapters _) (.cons (adds_proxies _) .nil))
  obtain ⟨diagnostics, hrest⟩ := run_adds hadds (c := { c with
    diagnostics := c.diagnostics ++ (Stage.schema "emit.schema").log notes }) hc hs
  have hparts : artifactsOf s g = [schemaArtifact s g] ++
      [converterArtifacts s g, adapterArtifacts s g, proxyArtifacts s g].flatten := by
    simp [artifactsOf]
  refine ⟨diagnostics, ?_⟩
  rw [Pipeline.run_cons hc, hs, hschema, hparts, Bundle.insertAll_append]
  cases ({} : Bundle).insertAll [schemaArtifact s g] with
  | error e => rfl
  | ok b =>
    change Pipeline.run (c.after (.schema "emit.schema") { data := .staged ⟨g, b⟩, notes })
      (.staged ⟨g, b⟩) _ = _
    rw [hafter, hrest]
    rfl

/-- A run does what the check does, and then stages the artifacts of the graph. -/
theorem generate_eq (r : Registry) (s : Settings) :
    generate r s = s.check >>= fun _ => discover r s.naming >>= fun g =>
      Pipeline.run (({ settings := s } : Pipeline.Context).after (.discovery "discover")
          (discovered g))
        (.graph g) [.schema "emit.schema", .converters "emit.converters",
          .adapters "emit.adapters", .proxies "emit.proxies"] >>= fun report =>
      report.output.toStaged >>= fun staged =>
      pure { graph := staged.graph, bundle := staged.bundle, diagnostics := report.diagnostics } := by
  rw [generate, generateUnless, generationStages, Pipeline.run_cons rfl, discovery_run]
  cases s.check with
  | error e => rfl
  | ok _ =>
    cases discover r s.naming with
    | error e => rfl
    | ok g => rfl

theorem generate_of_check_error {e : Failure} (h : check r s = .error e) :
    generate r s = .error e := by
  rw [check_eq] at h
  rw [generate_eq]
  cases hs : s.check with
  | error e' =>
    rw [hs] at h
    cases h
    rfl
  | ok _ =>
    rw [hs] at h
    change discover r s.naming = .error e at h
    rw [h]
    rfl

theorem generate_of_check_ok (h : check r s = .ok g) :
    ∃ diagnostics, generate r s =
      (({} : Bundle).insertAll (artifactsOf s g)).map fun b => ⟨g, b, diagnostics⟩ := by
  obtain ⟨hs, hg⟩ := check_eq_ok_iff.mp h
  obtain ⟨diagnostics, hrun⟩ := run_emission (discovers_of_ok hg)
    (c := ({ settings := s } : Pipeline.Context).after (.discovery "discover") (discovered g)) rfl rfl
  refine ⟨diagnostics, ?_⟩
  rw [generate_eq, hs, hg]
  change Pipeline.run _ _ _ >>= _ = _
  rw [hrun]
  cases ({} : Bundle).insertAll (artifactsOf s g) with
  | error e => rfl
  | ok b => rfl

end RpcScaffold
