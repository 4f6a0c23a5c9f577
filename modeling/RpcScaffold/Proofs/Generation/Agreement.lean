import RpcScaffold.Proofs.Generation.Check
import RpcScaffold.Proofs.Generation.Paths

/-!
# Generating what was checked

Discovery knows converters by their modules, but services only by their wire names. Adapters and
proxies get their modules from other names, and two of these may meet although the wire names do
not.
-/

namespace RpcScaffold

variable {r : Registry} {s : Settings} {g : ServiceGraph}

theorem exists_generate_iff_nodup (h : check r s = .ok g) :
    (∃ gen, generate r s = .ok gen) ↔ ((artifactsOf s g).map (·.1)).Nodup := by
  obtain ⟨diagnostics, hstaged⟩ := generate_of_check_ok h
  simp only [hstaged, map_eq_ok]
  rw [← Bundle.insertAll_empty_eq_ok]
  constructor
  · rintro ⟨gen, b, hb, -⟩
    exact ⟨b, hb⟩
  · rintro ⟨b, hb⟩
    exact ⟨_, b, hb, rfl⟩

theorem exists_generate_iff (hs : s.layout = {}) (h : check r s = .ok g) :
    (∃ gen, generate r s = .ok gen) ↔
      (g.adapterModules s.naming).Nodup ∧ g.proxyModules.Nodup := by
  rw [exists_generate_iff_nodup h, nodup_paths (discovers_of_ok (check_eq_ok_iff.mp h).2) hs]

theorem collision_of_generate_eq_error (hs : s.layout = {}) (h : check r s = .ok g) {e : Failure}
    (he : generate r s = .error e) : ∃ file, e = Bundle.collision file ∧
      (List.Duplicate file (g.records.map (adapterFile s)) ∨
        List.Duplicate file (g.records.map (proxyFile s))) := by
  have hg := discovers_of_ok (check_eq_ok_iff.mp h).2
  obtain ⟨diagnostics, hstaged⟩ := generate_of_check_ok h
  rw [hstaged] at he
  obtain ⟨file, rfl, hdup⟩ := Bundle.insertAll_empty_eq_error (map_eq_error.mp he)
  exact ⟨file, rfl, (duplicate_paths hg hs file).mp hdup⟩

theorem check_of_generate_eq_ok {gen : Generation} (h : generate r s = .ok gen) :
    check r s = .ok gen.graph := by
  cases hcheck : check r s with
  | error e =>
    rw [generate_of_check_error hcheck] at h
    cases h
  | ok g =>
    obtain ⟨diagnostics, hstaged⟩ := generate_of_check_ok hcheck
    rw [hstaged, map_eq_ok] at h
    obtain ⟨b, -, rfl⟩ := h
    rfl

theorem settings_of_generate {gen : Generation} (h : generate r s = .ok gen) : s.check = .ok () :=
  (check_eq_ok_iff.mp (check_of_generate_eq_ok h)).1

theorem discover_of_generate {gen : Generation} (h : generate r s = .ok gen) :
    discover r s.naming = .ok gen.graph :=
  (check_eq_ok_iff.mp (check_of_generate_eq_ok h)).2

theorem discovers_of_generate {gen : Generation} (h : generate r s = .ok gen) :
    Discovers r s.naming gen.graph :=
  discovers_of_ok (discover_of_generate h)

/-- The graph is all that a generation takes from the registry. -/
theorem generate_of_discover_eq {r' : Registry} {gen : Generation} (h : generate r s = .ok gen)
    (hg : discover r' s.naming = .ok gen.graph) : generate r' s = .ok gen := by
  rw [← h, generate_eq, generate_eq, hg, discover_of_generate h]

/-- A run with no settings of its own. -/
theorem exists_generate_of_discover (hg : discover r {} = .ok g)
    (hadapters : (g.adapterModules {}).Nodup) (hproxies : g.proxyModules.Nodup) :
    ∃ gen, generate r {} = .ok gen ∧ gen.graph = g := by
  have hok : check r {} = .ok g := check_eq_ok_iff.mpr ⟨Settings.check_default, hg⟩
  obtain ⟨gen, hgen⟩ := (exists_generate_iff rfl hok).mpr ⟨hadapters, hproxies⟩
  have hsame := (check_of_generate_eq_ok hgen).symm.trans hok
  exact ⟨gen, hgen, Except.ok.inj hsame⟩

theorem exists_generate_pingPong : ∃ gen, generate (pingPong ["Echo"]) {} = .ok gen ∧
    gen.graph.records = [echoRecord "Echo"] ∧
    gen.graph.messages.toList = [pingMessage, pongMessage] := by
  obtain ⟨g, hg, hrecords, hmessages⟩ := exists_messages_pingPong
  obtain ⟨gen, hgen, rfl⟩ := exists_generate_of_discover hg
    (by simp [ServiceGraph.adapterModules, hrecords])
    (by simp [ServiceGraph.proxyModules, hrecords])
  exact ⟨gen, hgen, hrecords, hmessages⟩

/-! ## What a generation stages -/

section Runs

variable {gen : Generation} (h : generate r s = .ok gen)
include h

theorem insertAll_of_generate :
    ({} : Bundle).insertAll (artifactsOf s gen.graph) = .ok gen.bundle := by
  obtain ⟨diagnostics, hstaged⟩ := generate_of_check_ok (check_of_generate_eq_ok h)
  rw [hstaged, map_eq_ok] at h
  obtain ⟨b, hb, heq⟩ := h
  rw [hb, ← heq]

/-- What is staged are the artifacts of the graph. -/
theorem get?_of_generate {path : String} {a : Artifact} :
    gen.bundle.get? path = some a ↔ (path, a) ∈ artifactsOf s gen.graph := by
  have hempty : ({} : Bundle).get? path = none := rfl
  rw [Bundle.get?_insertAll (insertAll_of_generate h), hempty]
  simp

theorem get?_schema : gen.bundle.get? s.layout.schemaFile = some
    ⟨.schema, (Schema.ofItems s (Schema.items gen.graph [] gen.graph.records)).render⟩ := by
  rw [get?_of_generate h]
  exact List.mem_cons_self

theorem get?_converterIndex : gen.bundle.get? (indexFile s.layout.convertersDir) =
    some ⟨.converterIndex, Converter.renderIndex gen.graph.messages.toList⟩ := by
  rw [get?_of_generate h]
  simp [artifactsOf, converterArtifacts]

theorem get?_adapterIndex : gen.bundle.get? (indexFile s.layout.adaptersDir) =
    some ⟨.adapterIndex, Adapter.renderIndex s gen.graph.records⟩ := by
  rw [get?_of_generate h]
  simp [artifactsOf, adapterArtifacts]

theorem get?_proxyIndex : gen.bundle.get? (indexFile s.layout.proxiesDir) =
    some ⟨.proxyIndex, Proxy.renderIndex gen.graph.records⟩ := by
  rw [get?_of_generate h]
  simp [artifactsOf, proxyArtifacts]

theorem get?_converter {m : Message} (hm : m ∈ gen.graph.messages.toList) :
    gen.bundle.get? (converterFile s m.name) =
      some ⟨.converter, (Converter.Module.ofMessage s m).render⟩ := by
  rw [get?_of_generate h, mem_artifactsOf_iff (by simp)]
  exact .inl ⟨m, hm, rfl⟩

theorem get?_adapter {record : ServiceRecord} (hrecord : record ∈ gen.graph.records) :
    gen.bundle.get? (adapterFile s record) =
      some ⟨.adapter, (Adapter.ofRecord s record).render⟩ := by
  rw [get?_of_generate h, mem_artifactsOf_iff (by simp)]
  exact .inr (.inl ⟨record, hrecord, rfl⟩)

theorem get?_proxy {record : ServiceRecord} (hrecord : record ∈ gen.graph.records) :
    gen.bundle.get? (proxyFile s record) = some ⟨.proxy, (Proxy.ofRecord s record).render⟩ := by
  rw [get?_of_generate h, mem_artifactsOf_iff (by simp)]
  exact .inr (.inr ⟨record, hrecord, rfl⟩)

end Runs

/-! ## Agreement -/

/-- Generation returns the graph that was checked, unless the modules of two adapters or of two
proxies have one name. Nothing else fails after discovery. -/
theorem generate_agrees (r : Registry) (s : Settings) (hs : s.layout = {}) :
    (∀ e, check r s = .error e → generate r s = .error e) ∧
    (∀ gen, generate r s = .ok gen → check r s = .ok gen.graph) ∧
    ∀ g, check r s = .ok g →
      ((∃ gen, generate r s = .ok gen) ↔
        (g.adapterModules s.naming).Nodup ∧ g.proxyModules.Nodup) ∧
      ∀ e, generate r s = .error e → ∃ file, e = Bundle.collision file ∧
        (List.Duplicate file (g.records.map (adapterFile s)) ∨
          List.Duplicate file (g.records.map (proxyFile s))) := by
  refine ⟨?_, ?_, ?_⟩
  · intro e he
    exact generate_of_check_error he
  · intro gen hgen
    exact check_of_generate_eq_ok hgen
  · intro g hg
    refine ⟨exists_generate_iff hs hg, ?_⟩
    intro e he
    exact collision_of_generate_eq_error hs hg he

theorem generate_agrees_pingPong : ∃ gen,
    generate (pingPong ["Echo"]) {} = .ok gen ∧ check (pingPong ["Echo"]) {} = .ok gen.graph := by
  obtain ⟨-, hcheck, hgenerate⟩ := generate_agrees (pingPong ["Echo"]) {} rfl
  obtain ⟨g, hg, hrecords⟩ := exists_discover_pingPong
  have hok : check (pingPong ["Echo"]) {} = .ok g :=
    check_eq_ok_iff.mpr ⟨Settings.check_default, hg⟩
  obtain ⟨gen, hgen⟩ := (hgenerate g hok).1.mpr
    ⟨by simp [ServiceGraph.adapterModules, hrecords], by simp [ServiceGraph.proxyModules, hrecords]⟩
  exact ⟨gen, hgen, hcheck gen hgen⟩

theorem exists_discover_sameModules : ∃ g, discover (pingPong ["aB", "ab"]) {} = .ok g ∧
    g.records = [echoRecord "aB", echoRecord "ab"] := by
  apply exists_discover_of_records
  rw [discover, serviceRecords_pingPong (by decide) (by decide)]
  decide +kernel

/-- The wire names of the services differ in the case of one letter, and the modules of their
adapters do not. -/
theorem generate_fails_sameModules : (∃ g, check (pingPong ["aB", "ab"]) {} = .ok g) ∧
    ∃ e, generate (pingPong ["aB", "ab"]) {} = .error e := by
  obtain ⟨g, hg, hrecords⟩ := exists_discover_sameModules
  have hok : check (pingPong ["aB", "ab"]) {} = .ok g :=
    check_eq_ok_iff.mpr ⟨Settings.check_default, hg⟩
  have hmodules : g.adapterModules {} = ["grpc_ab_service", "grpc_ab_service"] := by
    rw [ServiceGraph.adapterModules, hrecords]
    decide +kernel
  refine ⟨⟨g, hok⟩, ?_⟩
  cases hgen : generate (pingPong ["aB", "ab"]) {} with
  | error e => exact ⟨e, rfl⟩
  | ok gen =>
    have hnodup := ((exists_generate_iff rfl hok).mp ⟨gen, hgen⟩).1
    rw [hmodules] at hnodup
    exact absurd hnodup (by decide)

end RpcScaffold
