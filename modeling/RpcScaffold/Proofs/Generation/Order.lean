import RpcScaffold.Proofs.Discovery.Order
import RpcScaffold.Proofs.Generation.Extension
import RpcScaffold.Proofs.Generation.Inventory

/-!
# Declarations in another order

A converter, an adapter or a proxy does not know what was declared before it. Only the schema and
the indexes have an order of their own.
-/

namespace RpcScaffold

/-- The files that list messages or services, in the order of the graph. -/
def Settings.listings (s : Settings) : List String := [s.layout.schemaFile,
  indexFile s.layout.convertersDir, indexFile s.layout.adaptersDir, indexFile s.layout.proxiesDir]

/-- The same files in both, and the same texts in all but the listings. -/
structure Generation.SameFiles (s : Settings) (gen gen' : Generation) : Prop where
  files : gen.bundle.files.Perm gen'.bundle.files
  artifacts : ∀ path, path ∉ s.listings → gen.bundle.get? path = gen'.bundle.get? path

variable {r r' : Registry} {s : Settings} {g g' : ServiceGraph}

/-! ## Artifacts -/

theorem mem_artifactsOf_of_not_listing {path : String} {a : Artifact} (hpath : path ∉ s.listings) :
    (path, a) ∈ artifactsOf s g ↔ (path, a) ∈ moduleArtifacts s g := by
  rw [artifactsOf_perm.mem_iff, List.mem_append, or_iff_right]
  intro hlisting
  exact hpath (List.mem_map_of_mem (f := Prod.fst) hlisting)

theorem map_fst_artifactsOf_perm :
    ((artifactsOf s g).map (·.1)).Perm ((inventory s g).map (·.1)) := by
  rw [inventory_eq, List.map_map]
  exact artifactsOf_perm.map _

section Reordered

variable (hrecords : g.records.Perm g'.records)
  (hmessages : g.messages.toList.Perm g'.messages.toList)
include hrecords hmessages

theorem moduleArtifacts_perm : (moduleArtifacts s g).Perm (moduleArtifacts s g') :=
  ((hmessages.map _).append (hrecords.map _)).append (hrecords.map _)

theorem inventory_perm : (inventory s g).Perm (inventory s g') :=
  (((List.Perm.refl _).append (hmessages.map _)).append (hrecords.map _)).append (hrecords.map _)

end Reordered

/-! ## Runs -/

theorem exists_generate_of_perm {gen : Generation} (h : generate r s = .ok gen)
    (hg' : discover r' s.naming = .ok g') (hrecords : gen.graph.records.Perm g'.records)
    (hmessages : gen.graph.messages.toList.Perm g'.messages.toList) :
    ∃ gen', generate r' s = .ok gen' ∧ gen.SameFiles s gen' := by
  have hcheck : check r' s = .ok g' := check_eq_ok_iff.mpr ⟨settings_of_generate h, hg'⟩
  have hpaths : ((artifactsOf s g').map (·.1)).Nodup := by
    have hnodup := (exists_generate_iff_nodup (check_of_generate_eq_ok h)).mp ⟨gen, h⟩
    rw [map_fst_artifactsOf_perm.nodup_iff] at hnodup ⊢
    exact ((inventory_perm hrecords hmessages).map _).nodup_iff.mp hnodup
  obtain ⟨gen', hgen'⟩ := (exists_generate_iff_nodup hcheck).mpr hpaths
  obtain rfl : gen'.graph = g' :=
    Except.ok.inj ((check_of_generate_eq_ok hgen').symm.trans hcheck)
  refine ⟨gen', hgen', ?_, ?_⟩
  · exact ((files_of_generate h).trans (inventory_perm hrecords hmessages)).trans
      (files_of_generate hgen').symm
  · intro path hpath
    apply Option.ext
    intro a
    rw [get?_of_generate h, get?_of_generate hgen', mem_artifactsOf_of_not_listing hpath,
      mem_artifactsOf_of_not_listing hpath, (moduleArtifacts_perm hrecords hmessages).mem_iff]

theorem generate_of_perm_models (hperm : r.models.Perm r'.models)
    (hservices : r'.services = r.services) {gen : Generation} (h : generate r s = .ok gen) :
    generate r' s = .ok gen :=
  generate_of_discover_eq h (discover_of_perm_models hperm hservices (discover_of_generate h))

theorem generate_of_perm_services (hmodels : r'.models = r.models)
    (hperm : r.services.Perm r'.services) {gen : Generation} (h : generate r s = .ok gen) :
    ∃ gen', generate r' s = .ok gen' ∧ gen.SameFiles s gen' := by
  obtain ⟨g', hg', hsame⟩ := discover_of_perm_services hmodels hperm (discover_of_generate h)
  exact exists_generate_of_perm h hg' hsame.reordered hsame.messages

/-- The order of the models does not matter, and that of the services only to the listings. -/
theorem generate_reordered (r : Registry) (s : Settings) :
    (∀ models, r.models.Perm models →
      Alike (· = ·) (discover r s.naming) (discover { r with models } s.naming) ∧
      Alike (· = ·) (generate r s) (generate { r with models } s)) ∧
    ∀ services, r.services.Perm services →
      Alike (SameUpToOrder r { r with services }) (discover r s.naming)
        (discover { r with services } s.naming) ∧
      Alike (Generation.SameFiles s) (generate r s) (generate { r with services } s) := by
  constructor
  · intro models hperm
    refine ⟨.of_ok ?_ ?_, .of_ok ?_ ?_⟩
    · intro g hg
      exact ⟨g, discover_of_perm_models hperm (by rfl) hg, rfl⟩
    · intro g hg
      exact ⟨g, discover_of_perm_models hperm.symm (by rfl) hg⟩
    · intro gen hgen
      exact ⟨gen, generate_of_perm_models hperm (by rfl) hgen, rfl⟩
    · intro gen hgen
      exact ⟨gen, generate_of_perm_models hperm.symm (by rfl) hgen⟩
  · intro services hperm
    refine ⟨.of_ok ?_ ?_, .of_ok ?_ ?_⟩
    · intro g hg
      exact discover_of_perm_services (by rfl) hperm hg
    · intro g hg
      obtain ⟨g', hg', -⟩ := discover_of_perm_services (by rfl) hperm.symm hg
      exact ⟨g', hg'⟩
    · intro gen hgen
      exact generate_of_perm_services (by rfl) hperm hgen
    · intro gen hgen
      obtain ⟨gen', hgen', -⟩ := generate_of_perm_services (by rfl) hperm.symm hgen
      exact ⟨gen', hgen'⟩

theorem generate_reordered_pingPongNotes : ∃ gen gen', generate pingPongNotes {} = .ok gen ∧
    generate { pingPongNotes with models := pingPongNotes.models.reverse } {} = .ok gen ∧
    generate { pingPongNotes with services := pingPongNotes.services.reverse } {} = .ok gen' ∧
    gen.SameFiles {} gen' := by
  obtain ⟨hmodels, hservices⟩ := generate_reordered pingPongNotes {}
  obtain ⟨gen, hgen, -⟩ := exists_generate_pingPongNotes
  obtain ⟨_, hsame, rfl⟩ := (hmodels _ (List.reverse_perm _).symm).2.exists_of_ok hgen
  obtain ⟨gen', hgen', hfiles⟩ := (hservices _ (List.reverse_perm _).symm).2.exists_of_ok hgen
  exact ⟨gen, gen', hgen, hsame, hgen', hfiles⟩

end RpcScaffold
