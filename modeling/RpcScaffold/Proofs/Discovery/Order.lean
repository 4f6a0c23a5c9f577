import Mathlib.Data.List.Perm.Basic
import RpcScaffold.Proofs.Discovery.Keeping

/-!
# The order of declarations

The order of the models has no influence on the graph. The order of the services is that of the
records, and the messages come in the order in which the records need them.
-/

namespace RpcScaffold

variable {r r' : Registry} {n : Naming} {g : ServiceGraph}

/-! ## Models -/

theorem model?_eq_of_perm (hr : r.names.Nodup) (hperm : r.models.Perm r'.models) (name : String) :
    r'.model? name = r.model? name := by
  have hr' : r'.names.Nodup := (hperm.map _).nodup_iff.mp hr
  apply Option.ext
  intro m
  rw [Registry.model?_eq_some hr', Registry.model?_eq_some hr, hperm.mem_iff]

theorem discover_of_perm_models (hperm : r.models.Perm r'.models)
    (hservices : r'.services = r.services) (h : discover r n = .ok g) : discover r' n = .ok g := by
  have hg := discovers_of_ok h
  obtain ⟨-, hmodels, -⟩ := discover_eq_ok.mp h
  apply discover_of_keeps h
  · exact checkModels_of_subperm hmodels (hperm.symm.map _).subperm
  · have hmarked : r'.markedServices = r.markedServices := congrArg (List.filter _) hservices
    rw [hmarked]
    exact List.forall₂_same.mpr fun s _ => .refl s
  · intro name _ m hm
    exact ⟨m, (model?_eq_of_perm hg.distinctNames hperm name).trans hm, rfl⟩

/-! ## Services -/

/-- Every service has the same record in both graphs, in the order of either registry, and both
have the same messages. -/
structure SameUpToOrder (r r' : Registry) (g g' : ServiceGraph) : Prop where
  records : ∃ record : Service → ServiceRecord,
    g.records = r.markedServices.map record ∧ g'.records = r'.markedServices.map record
  reordered : g.records.Perm g'.records
  messages : g.messages.toList.Perm g'.messages.toList

theorem Catalog.Built.mem_toList_iff {c : Catalog} (h : c.Built r n) {message : Message} :
    message ∈ c.toList ↔ message.name ∈ c.names ∧
      ∃ m, r.model? message.name = some m ∧ Message.ofModel n m = .ok message := by
  constructor
  · intro hm
    exact ⟨List.mem_map_of_mem hm, h.ofModel message hm⟩
  · rintro ⟨hname, m, hm, hok⟩
    obtain ⟨other, hother, heq⟩ := List.mem_map.mp hname
    obtain ⟨k, hk, hkok⟩ := h.ofModel other hother
    rw [heq, hm] at hk
    obtain rfl := Option.some.inj hk
    rw [hok] at hkok
    rwa [Except.ok.inj hkok]

theorem Catalog.Built.toList_perm {c c' : Catalog} (h : c.Built r n) (h' : c'.Built r n)
    (hnames : ∀ name, name ∈ c.names ↔ name ∈ c'.names) : c.toList.Perm c'.toList := by
  rw [List.perm_ext_iff_of_nodup h.indexed.nodup.of_map h'.indexed.nodup.of_map]
  intro message
  rw [h.mem_toList_iff, h'.mem_toList_iff, hnames]

/-- The names may come in any order, and the messages are the same. -/
theorem Discovers.exists_catalogOf_perm (hg : Discovers r n g) {names : List String}
    (hnames : names.Perm (g.records.flatMap (·.referencedModels))) :
    ∃ messages, catalogOf r n {} names = .ok messages ∧
      g.messages.toList.Perm messages.toList := by
  obtain ⟨messages, hmessages⟩ : ∃ messages, catalogOf r n {} names = .ok messages := by
    apply exists_catalogOf .empty
    intro name hname
    have hmem : name ∈ g.messages.names := by
      rw [hg.messages, mem_pending, ← hnames.mem_iff]
      exact ⟨hname, by simp⟩
    obtain ⟨message, hmessage, rfl⟩ := List.mem_map.mp hmem
    obtain ⟨m, hm, hok⟩ := hg.built.ofModel message hmessage
    exact ⟨m, message, hm, hok⟩
  obtain ⟨hbuilt, hcatalog⟩ := catalogOf_spec .empty hmessages
  refine ⟨messages, hmessages, hg.built.toList_perm hbuilt ?_⟩
  intro name
  rw [hg.messages, hcatalog, Catalog.names_empty, List.nil_append, mem_pending, mem_pending,
    hnames.mem_iff]

theorem discover_of_perm_services (hmodels : r'.models = r.models)
    (hperm : r.services.Perm r'.services) (h : discover r n = .ok g) :
    ∃ g', discover r' n = .ok g' ∧ SameUpToOrder r r' g g' := by
  have hg := discovers_of_ok h
  obtain ⟨-, hcheck, -⟩ := discover_eq_ok.mp h
  have hmarked : r'.markedServices.Perm r.markedServices := hperm.symm.filter _
  obtain ⟨records, hrecords, hsame⟩ := List.perm_comp_forall₂ hmarked hg.records
  have hunique : ∀ s record record', IsRecord r n s record → IsRecord r n s record' →
      record = record' := fun _ _ _ hr hr' => hr.unique hr'
  obtain ⟨record, hmap, hmap'⟩ := exists_eq_map hunique hg.records hrecords
  obtain ⟨messages, hmessages, hperm'⟩ := hg.exists_catalogOf_perm (hsame.flatMap_right _)
  -- Both registries declare the same models, so a record of one is a record of the other.
  have hkeep : ∀ name, r.Keeps r' name := by
    intro name m hm
    exact ⟨m, by rwa [Registry.model?, hmodels], rfl⟩
  have hr' : r'.names.Nodup := by
    rw [Registry.names, hmodels]
    exact hg.distinctNames
  have hrecords' : List.Forall₂ (IsRecord r' n) r'.markedServices records :=
    records_of_keeps hrecords (List.forall₂_same.mpr fun s _ => .refl s)
      (fun _ _ name _ => hkeep name) hr'
  have hwires : checkWireServices n messages.toList [] records = .ok () := by
    rw [checkWireServices_eq_ok, List.map_nil, free_of_nil, (hsame.map _).nodup_iff]
    refine ⟨?_, hg.distinctServices⟩
    intro record hrecord message hmessage
    exact hg.services_ne_messages record (hsame.mem_iff.mp hrecord) message
      (hperm'.mem_iff.mpr hmessage)
  refine ⟨⟨records, messages⟩, ?_, ⟨record, hmap, hmap'⟩, hsame.symm, hperm'⟩
  refine discover_eq_ok.mpr ⟨?_, by rwa [hmodels], ?_, ?_,
    catalogOf_of_keeps (fun name _ => hkeep name) hmessages, hwires⟩
  · rw [hmodels]
    exact hg.nonempty.imp_right fun hne hnil => hne (hnil ▸ hperm).eq_nil
  · intro hnil
    exact hg.marked (hnil ▸ hmarked).symm.eq_nil
  · rw [serviceRecords_eq_ok hr', List.map_nil, free_of_nil, (hsame.map _).nodup_iff]
    exact ⟨hrecords', hg.distinctShorts⟩

end RpcScaffold
