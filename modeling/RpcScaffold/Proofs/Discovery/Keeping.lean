import Mathlib.Data.List.Flatten
import RpcScaffold.Proofs.Discovery.Acceptance

/-!
# Registries that agree on what is needed

Of the models that its services reach, discovery reads the fields, and of all others only the names.
Two registries that agree on these and on the marked services have one graph.
-/

namespace RpcScaffold

variable {r r' : Registry} {n : Naming}

/-! ## What a registry keeps of another -/

/-- If `r` declares the model, `r'` declares it with the same fields. -/
def Registry.Keeps (r r' : Registry) (name : String) : Prop :=
  ∀ m, r.model? name = some m → ∃ m', r'.model? name = some m' ∧ m'.fields = m.fields

theorem Registry.Keeps.mem_names {name : String} (h : r.Keeps r' name) (hname : name ∈ r.names) :
    name ∈ r'.names := by
  obtain ⟨m, hm⟩ := Option.isSome_iff_exists.mp (Registry.declares_iff.mpr hname)
  obtain ⟨m', hm', -⟩ := h m hm
  rw [← Registry.declares_iff, Registry.declares, hm']
  rfl

/-- The services are the same to a client. Interfaces that are not the first marked one play no
part in that. -/
structure Service.Keeps (s s' : Service) : Prop where
  name : s'.name = s.name
  models : s'.models = s.models
  interface : s'.interfaces.find? (·.marked) = s.interfaces.find? (·.marked)

theorem Service.Keeps.refl (s : Service) : s.Keeps s := ⟨rfl, rfl, rfl⟩

theorem Service.Keeps.seeds {s s' : Service} (h : s.Keeps s') : s'.seeds = s.seeds := by
  rw [Service.seeds, h.models, h.interface, Service.seeds]

/-! ## The search -/

section Search

variable {seeds : List String} (hkeep : ∀ name, r.Reachable seeds name → r.Keeps r' name)
include hkeep

namespace Worklist

theorem step_of_keeps {w w' : Worklist} (hi : Inv r seeds w) (h : step r w = .ok w') :
    step r' w = .ok w' := by
  rw [step_eq_ok] at h ⊢
  rcases h with hend | ⟨name, rest, m, htodo, hm, hall, rfl⟩
  · exact .inl hend
  · have hname := hi.reachable name (by simp [names, htodo])
    obtain ⟨m', hm', hfields⟩ := hkeep name hname m hm
    have htargets : m'.targets = m.targets := by rw [Model.targets, hfields, Model.targets]
    refine .inr ⟨name, rest, m', htodo, hm', ?_, by rw [htargets]⟩
    intro target ht
    rw [htargets] at ht
    have hreach := Registry.Reachable.step hname (Registry.refers_of_model? hm ht)
    exact (hkeep target hreach).mem_names (hall target ht)

theorem run_of_keeps {k : Nat} {w w' : Worklist} (hi : Inv r seeds w) (h : run r k w = .ok w') :
    run r' k w = .ok w' := by
  induction k generalizing w with
  | zero => exact h
  | succ k ih =>
    rw [run, bind_eq_ok] at h ⊢
    obtain ⟨v, hv, hrest⟩ := h
    exact ⟨v, step_of_keeps hkeep hi hv, ih (hi.step hv) hrest⟩

end Worklist

theorem Finds.of_keeps {names : List String} (hf : Finds r seeds names) (hr' : r'.names.Nodup) :
    Finds r' seeds names := by
  have hseeds : ∀ name ∈ seeds, name ∈ r'.names := by
    intro name hname
    have hreach := Registry.Reachable.seed (r := r) hname
    exact (hkeep name hreach).mem_names (hf.declared name ((hf.mem_iff name).mpr hreach))
  -- Steps for all models of the larger registry are enough for either.
  have hrun := Worklist.run_of_keeps hkeep .start (hf.run _ (Nat.le_max_left _ r'.models.length))
  rw [Worklist.run_start hr' hseeds (Nat.le_max_right _ _)] at hrun
  obtain ⟨found, hfound, heq⟩ := map_eq_ok.mp hrun
  rw [← reachFrom_eq_ok hr' hseeds, hfound, (Worklist.mk.inj heq).1]

end Search

/-! ## Records -/

theorem contracts_of_mem_names {methods : List Method} {contracts : List Contract}
    (hc : List.Forall₂ (fun m c => IsContract m r c) methods contracts)
    (h : ∀ name ∈ contracts.flatMap (fun c => [c.input, c.output]), name ∈ r'.names) :
    List.Forall₂ (fun m c => IsContract m r' c) methods contracts := by
  induction hc with
  | nil => exact .nil
  | @cons m c methods contracts hmc _ ih =>
    rw [List.flatMap_cons, List.forall_mem_append] at h
    exact .cons ⟨hmc.name, hmc.params, hmc.returns, h.1 _ (by simp), h.1 _ (by simp)⟩ (ih h.2)

theorem IsRecord.of_keeps {s s' : Service} {record : ServiceRecord} (h : IsRecord r n s record)
    (hs : s.Keeps s') (hkeep : ∀ name, r.Reachable s.seeds name → r.Keeps r' name)
    (hr' : r'.names.Nodup) : IsRecord r' n s' record := by
  have hfinds := h.finds.of_keeps hkeep hr'
  obtain ⟨i, hi, hname, hcontracts, hrpc⟩ := h.interface
  have hcontracts' : List.Forall₂ (fun m c => IsContract m r' c) i.methods record.methods := by
    apply contracts_of_mem_names hcontracts
    intro name hname
    have hseed : name ∈ s.seeds := by
      rw [← seeds_eq hi hcontracts]
      exact List.mem_append_right _ hname
    exact hfinds.declared name ((hfinds.mem_iff name).mpr (.seed hseed))
  refine ⟨h.serviceName.trans hs.name.symm, ?_, ⟨i, hs.interface.trans hi, hname, hcontracts', hrpc⟩,
    ?_⟩
  · rw [hs.name]
    exact h.named
  · rw [hs.seeds]
    exact hfinds

theorem records_of_keeps {services services' : List Service} {records : List ServiceRecord}
    (h : List.Forall₂ (IsRecord r n) services records)
    (hs : List.Forall₂ Service.Keeps services services')
    (hkeep : ∀ s ∈ services, ∀ name, r.Reachable s.seeds name → r.Keeps r' name)
    (hr' : r'.names.Nodup) : List.Forall₂ (IsRecord r' n) services' records := by
  induction h generalizing services' with
  | nil =>
    cases hs
    exact .nil
  | cons hrecord _ ih =>
    rw [List.forall_mem_cons] at hkeep
    cases hs with
    | cons hkeeps hrest => exact .cons (hrecord.of_keeps hkeeps hkeep.1 hr') (ih hrest hkeep.2)

/-! ## Messages -/

theorem ofModel_congr {m m' : Model} (hname : m'.name = m.name) (hfields : m'.fields = m.fields) :
    Message.ofModel n m' = Message.ofModel n m := by
  rw [Message.ofModel, hname, hfields, Message.ofModel]

theorem catalogOf_of_keeps {c c' : Catalog} {names : List String}
    (hkeep : ∀ name ∈ names, r.Keeps r' name) (h : catalogOf r n c names = .ok c') :
    catalogOf r' n c names = .ok c' := by
  induction names generalizing c with
  | nil => exact h
  | cons name rest ih =>
    rw [List.forall_mem_cons] at hkeep
    cases hname : c.contains name with
    | true =>
      rw [catalogOf, if_pos hname] at h ⊢
      exact ih hkeep.2 h
    | false =>
      rw [catalogOf_cons_eq_ok hname] at h ⊢
      obtain ⟨m, message, hm, hok, hrest⟩ := h
      obtain ⟨m', hm', hfields⟩ := hkeep.1 m hm
      have hsame : m'.name = m.name :=
        (Registry.name_of_model? hm').trans (Registry.name_of_model? hm).symm
      exact ⟨m', message, hm', (ofModel_congr hsame hfields).trans hok, ih hkeep.2 hrest⟩

/-! ## The graph -/

/-- The check of all models reads their names only, and not the order of these. -/
theorem checkModels_of_subperm {models models' : List Model}
    (h : checkModels n [] [] models = .ok ())
    (hnames : (models'.map (·.name)).Subperm (models.map (·.name))) :
    checkModels n [] [] models' = .ok () := by
  obtain ⟨kept, hperm, hsub⟩ := hnames
  obtain ⟨hids, hdistinct, hidents⟩ := checkModels_eq_ok.mp h
  have hflat : ∀ ms : List Model, ms.flatMap (·.idents n) = (ms.map (·.name)).flatMap fun name =>
      [n.wireMessage name, Naming.converterModule name] := by
    intro ms
    rw [List.flatMap_map]
    rfl
  rw [free_of_nil] at hdistinct
  rw [hflat, List.map_nil, free_of_nil] at hidents
  refine checkModels_eq_ok.mpr ⟨?_, ?_, ?_⟩
  · intro m hm
    obtain ⟨k, hk, hkm⟩ := List.mem_map.mp (hsub.subset (hperm.mem_iff.mpr (List.mem_map_of_mem hm)))
    rw [← hkm]
    exact hids k hk
  · rw [free_of_nil]
    exact hperm.nodup_iff.mp (hdistinct.sublist hsub)
  · rw [hflat, List.map_nil, free_of_nil, ← (hperm.flatMap_right _).nodup_iff]
    exact hidents.sublist (hsub.flatMap _)

theorem Discovers.exposes_of_referenced {g : ServiceGraph} (h : Discovers r n g)
    {record : ServiceRecord} (hrecord : record ∈ g.records) {name : String}
    (hname : name ∈ record.referencedModels) : r.Exposes name := by
  obtain ⟨s, hs, hsr⟩ := exists_left h.records hrecord
  exact ⟨s, hs, (hsr.finds.mem_iff name).mp hname⟩

theorem discover_of_keeps {g : ServiceGraph} (h : discover r n = .ok g)
    (hmodels : checkModels n [] [] r'.models = .ok ())
    (hservices : List.Forall₂ Service.Keeps r.markedServices r'.markedServices)
    (hkeep : ∀ name, r.Exposes name → r.Keeps r' name) : discover r' n = .ok g := by
  have hg := discovers_of_ok h
  obtain ⟨-, -, -, -, hmessages, hwires⟩ := discover_eq_ok.mp h
  have hr' : r'.names.Nodup := free_of_nil.mp (checkModels_eq_ok.mp hmodels).2.1
  have hmarked : r'.markedServices ≠ [] := by
    intro hnil
    rw [hnil, List.forall₂_nil_right_iff] at hservices
    exact hg.marked hservices
  have hsome : r'.services ≠ [] := by
    intro hnil
    exact hmarked (by rw [Registry.markedServices, hnil, List.filter_nil])
  have hrecords : List.Forall₂ (IsRecord r' n) r'.markedServices g.records :=
    records_of_keeps hg.records hservices (fun s hs name hname => hkeep name ⟨s, hs, hname⟩) hr'
  have hneeded : ∀ name ∈ g.records.flatMap (·.referencedModels), r.Keeps r' name := by
    intro name hname
    obtain ⟨record, hrecord, hname⟩ := List.mem_flatMap.mp hname
    exact hkeep name (hg.exposes_of_referenced hrecord hname)
  refine discover_eq_ok.mpr ⟨.inr hsome, hmodels, hmarked, ?_, catalogOf_of_keeps hneeded hmessages,
    hwires⟩
  rw [serviceRecords_eq_ok hr']
  exact ⟨hrecords, free_of_nil.mpr hg.distinctShorts⟩

end RpcScaffold
