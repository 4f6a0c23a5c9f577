import RpcScaffold.Proofs.Generation.Stages

/-!
# Emitters on a staged run

Converters, adapters and proxies join what was staged before them, and it does not matter which of
them come first. The schema takes nothing but the graph of a staged run.
-/

namespace RpcScaffold

/-- The stages that go on from a staged run. -/
def emitters : List Stage :=
  [.converters "emit.converters", .adapters "emit.adapters", .proxies "emit.proxies"]

/-- Whatever is staged in the first bundle is staged in the second, unchanged. -/
def Bundle.KeptIn (b b' : Bundle) : Prop := ∀ path a, b.get? path = some a → b'.get? path = some a

variable {s : Settings} {g : ServiceGraph} {b : Bundle}

/-! ## One stage -/

theorem known_of_foldlM {models : List String} {b' : Bundle}
    (h : models.foldlM (stageConverter s g) b = .ok b') :
    ∀ model ∈ models, ∃ m, g.messages.get? model = some m := by
  induction models generalizing b with
  | nil => simp
  | cons model rest ih =>
    rw [List.foldlM_cons, bind_eq_ok] at h
    obtain ⟨u, hu, hrest⟩ := h
    refine List.forall_mem_cons.mpr ⟨?_, ih hrest⟩
    cases hm : g.messages.get? model with
    | some m => exact ⟨m, rfl⟩
    | none =>
      rw [stageConverter, ServiceGraph.message, hm] at hu
      cases hu

theorem known_of_converters {id : String} {result : StageResult}
    (h : (Stage.converters id).run s false (.staged ⟨g, b⟩) = .ok result) : g.Known := by
  rw [converters_run, bind_eq_ok] at h
  obtain ⟨b', hb', -⟩ := h
  exact known_of_foldlM hb'

/-- What an emitter stages on the graph, if it succeeds at all. -/
theorem exists_adds {stage : Stage} (hstage : stage ∈ emitters) {result : StageResult}
    (h : stage.run s false (.staged ⟨g, b⟩) = .ok result) :
    ∃ artifacts, stage.Adds s g artifacts := by
  simp only [emitters, List.mem_cons, List.not_mem_nil, or_false] at hstage
  rcases hstage with rfl | rfl | rfl
  · exact ⟨_, adds_referencedConverters (known_of_converters h) _⟩
  · exact ⟨_, adds_adapters _⟩
  · exact ⟨_, adds_proxies _⟩

theorem Stage.Adds.keptIn {stage : Stage} {artifacts : List (String × Artifact)}
    (hadds : stage.Adds s g artifacts) {result : StageResult}
    (h : stage.run s false (.staged ⟨g, b⟩) = .ok result) :
    ∃ b', result.data = .staged ⟨g, b'⟩ ∧ b.KeptIn b' := by
  obtain ⟨notes, hrun⟩ := hadds
  rw [hrun, map_eq_ok] at h
  obtain ⟨b', hb', rfl⟩ := h
  exact ⟨b', rfl, fun path a ha => (Bundle.get?_insertAll hb').mpr (.inl ha)⟩

/-- A stage that was not stopped does what it does in a run that goes on. -/
theorem run_of_not_stopped {stage : Stage} (hstage : stage ∈ .schema "emit.schema" :: emitters)
    {cancelled : Bool} {result : StageResult}
    (h : stage.run s cancelled (.staged ⟨g, b⟩) = .ok result) :
    stage.run s false (.staged ⟨g, b⟩) = .ok result := by
  have hstops : stage.run s cancelled (.staged ⟨g, b⟩) =
      stopIfCancelled cancelled g >>= fun _ => stage.run s false (.staged ⟨g, b⟩) := by
    simp only [emitters, List.mem_cons, List.not_mem_nil, or_false] at hstage
    rcases hstage with rfl | rfl | rfl | rfl <;> rfl
  rw [hstops, bind_eq_ok] at h
  exact h.choose_spec.2

/-- The schema is alone in its bundle. -/
theorem schema_run_staged (id : String) : (Stage.schema id).run s false (.staged ⟨g, b⟩) =
    (Schema.ofGraph s g {}).1 >>= fun schema => pure {
      data := .staged ⟨g, ⟨⟨[(s.layout.schemaFile, ⟨.schema, schema.render⟩)]⟩⟩⟩
      notes := [note "emit.schema" s!"{(Schema.ofGraph s g {}).2.size} messages in schema" []] } :=
  rfl

/-- Converters, adapters and proxies are added to what was staged before. A schema is staged in a
bundle of its own, so the rest is lost unless it was the same schema and nothing else. -/
theorem emission_keeps (s : Settings) (cancelled : Bool) (staged : Staged) :
    (∀ stage ∈ emitters, ∀ result, stage.run s cancelled (.staged staged) = .ok result →
      ∃ b, result.data = .staged ⟨staged.graph, b⟩ ∧ staged.bundle.KeptIn b) ∧
    ∀ result, (Stage.schema "emit.schema").run s cancelled (.staged staged) = .ok result →
      ∃ schema b, (Schema.ofGraph s staged.graph {}).1 = .ok schema ∧
        result.data = .staged ⟨staged.graph, b⟩ ∧
        b.toList = [(s.layout.schemaFile, ⟨.schema, schema.render⟩)] ∧
        (staged.bundle.KeptIn b ↔ ∀ path a, staged.bundle.get? path = some a →
          path = s.layout.schemaFile ∧ a = ⟨.schema, schema.render⟩) := by
  constructor
  · intro stage hstage result h
    have hrun := run_of_not_stopped (List.mem_cons_of_mem _ hstage) h
    obtain ⟨artifacts, hadds⟩ := exists_adds hstage hrun
    exact hadds.keptIn hrun
  · intro result h
    have hrun := run_of_not_stopped List.mem_cons_self h
    rw [schema_run_staged, bind_eq_ok] at hrun
    obtain ⟨schema, hschema, hresult⟩ := hrun
    obtain rfl := pure_eq_ok.mp hresult
    refine ⟨schema, _, hschema, rfl, rfl, ?_⟩
    simp only [Bundle.KeptIn, Bundle.get?, NameMap.get?, List.lookup_cons, List.lookup_nil]
    refine forall₂_congr fun path a => imp_congr_right fun _ => ?_
    cases hpath : path == s.layout.schemaFile with
    | true => simp [beq_iff_eq.mp hpath, eq_comm]
    | false => simp [beq_eq_false_iff_ne.mp hpath]

/-- A run on the empty graph in which setup notes were staged. -/
def noted : Staged := ⟨{}, ⟨⟨[("README.txt", ⟨.instructions, "setup\n"⟩)]⟩⟩⟩

theorem emission_keeps_noted : ∃ result result',
    (Stage.proxies "emit.proxies").run {} false (.staged noted) = .ok result ∧
    (∃ b, result.data = .staged ⟨{}, b⟩ ∧ noted.bundle.KeptIn b) ∧
    (Stage.schema "emit.schema").run {} false (.staged noted) = .ok result' ∧
    ∃ b, result'.data = .staged ⟨{}, b⟩ ∧ ¬ noted.bundle.KeptIn b := by
  obtain ⟨hkeeps, hschema⟩ := emission_keeps {} false noted
  have hproxies : (Stage.proxies "emit.proxies").run {} false (.staged noted) = .ok _ := rfl
  have hrun : (Stage.schema "emit.schema").run {} false (.staged noted) = .ok _ := rfl
  obtain ⟨schema, b, -, hdata, -, hiff⟩ := hschema _ hrun
  refine ⟨_, _, hproxies, hkeeps _ (by simp [emitters]) _ hproxies, hrun, b, hdata, ?_⟩
  rw [hiff]
  intro hall
  exact absurd (hall "README.txt" _ rfl).1 (by decide)

/-- The notes were staged, and are gone after the schema. -/
theorem schema_drops_notes : ¬ ∀ (s : Settings) (staged : Staged),
    ∀ stage ∈ .schema "emit.schema" :: emitters, ∀ result,
      stage.run s false (.staged staged) = .ok result →
      ∃ b, result.data = .staged ⟨staged.graph, b⟩ ∧ staged.bundle.KeptIn b := by
  intro hall
  have hrun : (Stage.schema "emit.schema").run {} false (.staged noted) = .ok _ := rfl
  obtain ⟨b, hdata, hkept⟩ := hall {} noted _ List.mem_cons_self _ hrun
  cases hdata
  exact absurd (hkept "README.txt" _ rfl) (by decide)

/-! ## All orders -/

/-- All that the emitters stage. -/
def emissions (s : Settings) (g : ServiceGraph) : List (String × Artifact) :=
  referencedConverters s g ++ adapterArtifacts s g ++ proxyArtifacts s g

/-- Every message is there, and every path of an emitter is free and no other's. -/
structure Staged.HasRoom (s : Settings) (staged : Staged) : Prop where
  known : staged.graph.Known
  free : Free staged.bundle.paths ((emissions s staged.graph).map (·.1))

variable {c : Pipeline.Context}

/-- A run that succeeds has come to the converters, whatever was before them. -/
theorem known_of_run (hc : c.cancelled = false) {stages : List Stage}
    (hstages : ∀ stage ∈ stages, stage ∈ emitters)
    (hmem : Stage.converters "emit.converters" ∈ stages) {report : Pipeline.Report}
    (h : Pipeline.run c (.staged ⟨g, b⟩) stages = .ok report) : g.Known := by
  induction stages generalizing c b with
  | nil => cases hmem
  | cons stage rest ih =>
    rw [List.forall_mem_cons] at hstages
    rw [Pipeline.run_cons hc, bind_eq_ok] at h
    obtain ⟨result, hresult, hrest⟩ := h
    rcases List.mem_cons.mp hmem with rfl | hmem
    · exact known_of_converters hresult
    · obtain ⟨artifacts, notes, hrun⟩ := exists_adds hstages.1 hresult
      rw [hrun, map_eq_ok] at hresult
      obtain ⟨b', -, rfl⟩ := hresult
      exact ih (by simp [Pipeline.Context.after, hc]) hstages.2 hmem hrest

section Orders

variable {order order' : List Stage} (hc : c.cancelled = false) (horder : order.Perm emitters)
include hc horder

/-- The emitters stage the same artifacts in every order, one after the other. -/
theorem run_emitters (h : g.Known) : ∃ artifacts, artifacts.Perm (emissions c.settings g) ∧
    ∃ diagnostics, ∀ b : Bundle, Pipeline.run c (.staged ⟨g, b⟩) order =
      (b.insertAll artifacts).map fun b' => ⟨.staged ⟨g, b'⟩, diagnostics, false⟩ := by
  have hadds : List.Forall₂ (fun (stage : Stage) part => stage.Adds c.settings g part) emitters
      [referencedConverters c.settings g, adapterArtifacts c.settings g,
        proxyArtifacts c.settings g] :=
    .cons (adds_referencedConverters h _) (.cons (adds_adapters _) (.cons (adds_proxies _) .nil))
  obtain ⟨parts, hparts, hperm⟩ := List.perm_comp_forall₂ horder hadds
  refine ⟨parts.flatten, ?_, run_adds hparts hc rfl⟩
  have hflatten := hperm.flatten
  simpa [emissions] using hflatten

theorem known_of_order {report : Pipeline.Report}
    (h : Pipeline.run c (.staged ⟨g, b⟩) order = .ok report) : g.Known :=
  known_of_run hc (fun _ => horder.mem_iff.mp) (horder.mem_iff.mpr (by simp [emitters])) h

theorem exists_run_iff : (∃ report, Pipeline.run c (.staged ⟨g, b⟩) order = .ok report) ↔
    Staged.HasRoom c.settings ⟨g, b⟩ := by
  constructor
  · rintro ⟨report, hreport⟩
    have hknown := known_of_order hc horder hreport
    obtain ⟨artifacts, hperm, diagnostics, hrun⟩ := run_emitters hc horder hknown
    rw [hrun, map_eq_ok] at hreport
    obtain ⟨b', hb', -⟩ := hreport
    have hfree := (Bundle.exists_insertAll_iff b.holds_paths).mp ⟨b', hb'⟩
    exact ⟨hknown, hfree.perm (hperm.map _)⟩
  · intro hroom
    obtain ⟨artifacts, hperm, diagnostics, hrun⟩ := run_emitters hc horder hroom.known
    obtain ⟨b', hb'⟩ := (Bundle.exists_insertAll_iff b.holds_paths).mpr
      (hroom.free.perm (hperm.symm.map _))
    exact ⟨_, by rw [hrun, hb']; rfl⟩

theorem exists_run_of_run (horder' : order'.Perm emitters) {report : Pipeline.Report}
    (h : Pipeline.run c (.staged ⟨g, b⟩) order = .ok report) :
    ∃ report', Pipeline.run c (.staged ⟨g, b⟩) order' = .ok report' ∧
      ∃ b', report.output = .staged ⟨g, b'⟩ ∧ report'.output = .staged ⟨g, b'⟩ := by
  have hknown := known_of_order hc horder h
  obtain ⟨artifacts, hperm, diagnostics, hrun⟩ := run_emitters hc horder hknown
  obtain ⟨artifacts', hperm', diagnostics', hrun'⟩ := run_emitters hc horder' hknown
  rw [hrun, map_eq_ok] at h
  obtain ⟨b', hb', rfl⟩ := h
  have hsame := Bundle.insertAll_perm (hperm.trans hperm'.symm) hb'
  exact ⟨_, by rw [hrun', hsame]; rfl, b', rfl, rfl⟩

end Orders

/-- The emitters may run in any order. They succeed exactly if there is room for all that they
stage, and then every order ends with the same graph and the same bundle. -/
theorem emitters_commute (hc : c.cancelled = false) (staged : Staged) {order order' : List Stage}
    (horder : order.Perm emitters) (horder' : order'.Perm emitters) :
    ((∃ report, Pipeline.run c (.staged staged) order = .ok report) ↔
      staged.HasRoom c.settings) ∧
    Alike (fun report report' => ∃ b, report.output = .staged ⟨staged.graph, b⟩ ∧
        report'.output = .staged ⟨staged.graph, b⟩)
      (Pipeline.run c (.staged staged) order) (Pipeline.run c (.staged staged) order') := by
  refine ⟨exists_run_iff hc horder, .of_ok ?_ ?_⟩
  · intro report hreport
    exact exists_run_of_run hc horder horder' hreport
  · intro report' hreport'
    obtain ⟨report, hreport, -⟩ := exists_run_of_run hc horder' horder hreport'
    exact ⟨report, hreport⟩

/-- The notes again, on a graph with a service that was never checked. -/
def notedEcho : Staged :=
  ⟨{ records := [{
      serviceName := "EchoService", shortName := "Echo", interfaceName := "EchoApi"
      methods := [{ name := "echo", input := "Ping", output := "Pong" }], referencedModels := [] }] },
    noted.bundle⟩

theorem emitters_commute_notedEcho : ∃ report report' b,
    Pipeline.run {} (.staged notedEcho) emitters = .ok report ∧
    Pipeline.run {} (.staged notedEcho) emitters.reverse = .ok report' ∧
    report.output = .staged ⟨notedEcho.graph, b⟩ ∧
    report'.output = .staged ⟨notedEcho.graph, b⟩ := by
  obtain ⟨hiff, halike⟩ := emitters_commute (c := {}) rfl notedEcho (.refl emitters)
    (List.reverse_perm emitters)
  have hknown : notedEcho.graph.Known := fun _ hmodel => absurd hmodel List.not_mem_nil
  have hroom : notedEcho.HasRoom {} := ⟨hknown, by decide +kernel, by decide +kernel⟩
  obtain ⟨report, hreport⟩ := hiff.mpr hroom
  obtain ⟨report', hreport', b, hb, hb'⟩ := halike.exists_of_ok hreport
  exact ⟨report, report', b, hreport, hreport', hb, hb'⟩

end RpcScaffold
