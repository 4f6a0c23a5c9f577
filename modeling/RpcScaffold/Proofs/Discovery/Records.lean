import RpcScaffold.Proofs.Discovery.Reach
import RpcScaffold.Proofs.Discovery.Services

/-! # The records of the services -/

namespace RpcScaffold

/-- What is read off the names of contracts can be read off the names of the methods. -/
theorem map_contracts_eq {α : Type} (read : String → α) {r : Registry} {methods : List Method}
    {contracts : List Contract}
    (hc : List.Forall₂ (fun m c => IsContract m r c) methods contracts) :
    contracts.map (fun c => read c.name) = methods.map fun m => read m.name := by
  induction hc with
  | nil => rfl
  | cons h _ ih => rw [List.map_cons, List.map_cons, h.name, ih]

/-! ## The models of a service -/

theorem flatMap_models_eq {r : Registry} {methods : List Method} {contracts : List Contract}
    (hc : List.Forall₂ (fun m c => IsContract m r c) methods contracts) :
    contracts.flatMap (fun c => [c.input, c.output]) = methods.flatMap Method.models := by
  induction hc with
  | nil => rfl
  | cons h _ ih => rw [List.flatMap_cons, List.flatMap_cons, h.models_eq, ih]

/-- The queue starts with the models that the contracts name. -/
theorem seeds_eq {s : Service} {i : Interface} {r : Registry} {contracts : List Contract}
    (hi : s.interfaces.find? (·.marked) = some i)
    (hc : List.Forall₂ (fun m c => IsContract m r c) i.methods contracts) :
    s.models ++ contracts.flatMap (fun c => [c.input, c.output]) = s.seeds := by
  rw [Service.seeds, hi, flatMap_models_eq hc]
  simp

theorem mem_names_of_contracts {r : Registry} {methods : List Method} {contracts : List Contract}
    (hc : List.Forall₂ (fun m c => IsContract m r c) methods contracts) {name : String}
    (h : name ∈ contracts.flatMap fun c => [c.input, c.output]) : name ∈ r.names := by
  induction hc with
  | nil => simp at h
  | cons hm _ ih =>
    rw [List.flatMap_cons, List.mem_append] at h
    rcases h with h | h
    · rcases List.mem_pair.mp h with rfl | rfl
      · exact hm.input
      · exact hm.output
    · exact ih h

theorem reach_eq_ok {s : Service} {i : Interface} {r : Registry} {contracts : List Contract}
    {names : List String} (hr : r.names.Nodup) (hi : s.interfaces.find? (·.marked) = some i)
    (hc : List.Forall₂ (fun m c => IsContract m r c) i.methods contracts) :
    s.reach contracts r = .ok names ↔ Finds r s.seeds names := by
  unfold Service.reach
  rw [seeds_eq hi hc]
  have hlisted : s.models.find? (fun name => !r.declares name) = none ↔
      ∀ name ∈ s.models, name ∈ r.names := by
    simp only [List.find?_eq_none, Bool.not_eq_true', Bool.not_eq_false, Registry.declares_iff]
  cases hfind : s.models.find? (fun name => !r.declares name) with
  | none =>
    apply reachFrom_eq_ok hr
    intro name h
    rw [← seeds_eq hi hc, List.mem_append] at h
    rcases h with h | h
    · exact hlisted.mp hfind name h
    · exact mem_names_of_contracts hc h
  | some name =>
    simp only [reduceCtorEq, false_iff]
    intro h
    have hnone := hlisted.mpr fun x hx =>
      h.declared x ((h.mem_iff x).mpr (.seed (List.mem_append_left _ hx)))
    exact absurd (hfind.symm.trans hnone) (by simp)

/-! ## Records -/

/-- The record of a service that is fit for one. -/
structure IsRecord (r : Registry) (n : Naming) (s : Service) (record : ServiceRecord) : Prop where
  serviceName : record.serviceName = s.name
  named : record.shortName ≠ "" ∧ s.name = record.shortName ++ n.serviceSuffix
  interface : ∃ i, s.interfaces.find? (·.marked) = some i ∧ i.name = record.interfaceName ∧
    List.Forall₂ (fun m c => IsContract m r c) i.methods record.methods ∧
    (i.methods.map fun m => Naming.rpcMethod m.name).Nodup
  finds : Finds r s.seeds record.referencedModels

theorem IsRecord.accepted {r : Registry} {n : Naming} {s : Service} {record : ServiceRecord}
    (h : IsRecord r n s record) : s.Accepted r n record.shortName := by
  obtain ⟨i, hi, -, hc, hrpc⟩ := h.interface
  refine ⟨h.named, ⟨i, hi, ?_, hrpc⟩, ?_⟩
  · intro m hm
    obtain ⟨c, -, hmc⟩ := exists_right hc hm
    exact exists_isContract.mp ⟨c, hmc⟩
  · intro name hname
    exact h.finds.declared name ((h.finds.mem_iff name).mpr (.seed (List.mem_append_left _ hname)))

theorem IsRecord.nodup_rpcMethods {r : Registry} {n : Naming} {s : Service}
    {record : ServiceRecord} (h : IsRecord r n s record) :
    (record.methods.map fun c => Naming.rpcMethod c.name).Nodup := by
  obtain ⟨i, -, -, hcontracts, hnodup⟩ := h.interface
  rwa [map_contracts_eq Naming.rpcMethod hcontracts]

theorem IsRecord.unique {r : Registry} {n : Naming} {s : Service} {record record' : ServiceRecord}
    (h : IsRecord r n s record) (h' : IsRecord r n s record') : record = record' := by
  obtain ⟨i, hi, hinterface, hcontracts, -⟩ := h.interface
  obtain ⟨j, hj, hinterface', hcontracts', -⟩ := h'.interface
  obtain rfl : i = j := Option.some.inj (hi.symm.trans hj)
  have hservice : record.serviceName = record'.serviceName :=
    h.serviceName.trans h'.serviceName.symm
  have hshort : record.shortName = record'.shortName := by
    have hnames := h.named.2.symm.trans h'.named.2
    rwa [String.append_left_inj] at hnames
  have hmethods := List.right_unique_forall₂' (fun _ _ _ hc hc' => hc.unique hc') hcontracts
    hcontracts'
  have hmodels := h.finds.unique h'.finds
  have hname := hinterface.symm.trans hinterface'
  cases record
  cases record'
  simp only at hservice hshort hmethods hmodels hname
  rw [hservice, hshort, hmethods, hmodels, hname]

theorem exists_isRecord {r : Registry} {n : Naming} {s : Service} {short : String}
    (hr : r.names.Nodup) (h : s.Accepted r n short)
    (hall : ∀ name, r.Reachable s.seeds name → name ∈ r.names) :
    ∃ record, IsRecord r n s record ∧ record.shortName = short := by
  obtain ⟨i, hi, hmethods, hrpc⟩ := h.interface
  obtain ⟨contracts, hc⟩ : ∃ contracts,
      List.Forall₂ (fun m c => IsContract m r c) i.methods contracts :=
    exists_forall₂.mpr fun m hm => exists_isContract.mpr (hmethods m hm)
  obtain ⟨names, hnames⟩ := (exists_finds hr).mpr hall
  exact ⟨⟨s.name, short, i.name, contracts, names⟩, ⟨rfl, h.named, ⟨i, hi, rfl, hc, hrpc⟩, hnames⟩,
    rfl⟩

theorem exists_records {r : Registry} {n : Naming} {services : List Service} {shorts : List String}
    (hr : r.names.Nodup) (h : List.Forall₂ (fun s short => s.Accepted r n short) services shorts)
    (hall : ∀ s ∈ services, ∀ name, r.Reachable s.seeds name → name ∈ r.names) :
    ∃ records, List.Forall₂ (IsRecord r n) services records ∧
      records.map (·.shortName) = shorts := by
  induction h with
  | nil => exact ⟨[], .nil, rfl⟩
  | cons hs _ ih =>
    rw [List.forall_mem_cons] at hall
    obtain ⟨record, hrecord, rfl⟩ := exists_isRecord hr hs hall.1
    obtain ⟨others, hothers, rfl⟩ := ih hall.2
    exact ⟨record :: others, .cons hrecord hothers, rfl⟩

/-- The seeds of an accepted service are declared. -/
theorem Service.Accepted.mem_names {r : Registry} {n : Naming} {s : Service} {short name : String}
    (h : s.Accepted r n short) (hname : name ∈ s.seeds) : name ∈ r.names := by
  rw [Service.seeds, List.mem_append] at hname
  rcases hname with hname | hname
  · exact h.listed name hname
  · obtain ⟨i, hi, hmethods, -⟩ := h.interface
    rw [hi] at hname
    simp only [Option.toList_some, List.flatMap_cons, List.flatMap_nil, List.append_nil,
      List.mem_flatMap] at hname
    obtain ⟨m, hm, hname⟩ := hname
    obtain ⟨c, hc⟩ := exists_isContract.mpr (hmethods m hm)
    rw [hc.models_eq] at hname
    rcases List.mem_pair.mp hname with rfl | rfl
    · exact hc.input
    · exact hc.output

theorem serviceRecords_cons_eq_ok {r : Registry} {n : Naming} (hr : r.names.Nodup) {s : Service}
    {rest : List Service} {taken : List (String × String)} {records : List ServiceRecord} :
    serviceRecords r n taken (s :: rest) = .ok records ↔
      ∃ record others, IsRecord r n s record ∧ record.shortName ∉ taken.map (·.1) ∧
        serviceRecords r n ((record.shortName, s.name) :: taken) rest = .ok others ∧
        record :: others = records := by
  rw [serviceRecords, bind_eq_ok]
  simp only [shortName_eq_ok]
  constructor
  · rintro ⟨short, hshort, h⟩
    cases hfree : taken.lookup short with
    | some first => simp [hfree, throw, throwThe, MonadExceptOf.throw, bind, Except.bind] at h
    | none =>
      simp only [hfree, bind_eq_ok, pure_eq_ok, interface_eq_ok, contracts_eq_ok] at h
      obtain ⟨i, hi, contracts, ⟨hc, hrpc⟩, names, hnames, others, hothers, rfl⟩ := h
      rw [reach_eq_ok hr hi hc] at hnames
      exact ⟨_, others, ⟨rfl, hshort, ⟨i, hi, rfl, hc, hrpc⟩, hnames⟩, lookup_eq_none.mp hfree,
        hothers, rfl⟩
  · rintro ⟨record, others, hrecord, hfree, hothers, rfl⟩
    obtain ⟨i, hi, hname, hc, hrpc⟩ := hrecord.interface
    refine ⟨record.shortName, hrecord.named, ?_⟩
    have hnames := (reach_eq_ok hr hi hc).mpr hrecord.finds
    rw [lookup_eq_none.mpr hfree]
    simp only [bind_eq_ok, pure_eq_ok, interface_eq_ok, contracts_eq_ok]
    refine ⟨i, hi, record.methods, ⟨hc, hrpc⟩, record.referencedModels, hnames, others, hothers, ?_⟩
    rw [hname, ← hrecord.serviceName]

theorem serviceRecords_eq_ok {r : Registry} {n : Naming} (hr : r.names.Nodup)
    {services : List Service} {taken : List (String × String)} {records : List ServiceRecord} :
    serviceRecords r n taken services = .ok records ↔
      List.Forall₂ (IsRecord r n) services records ∧
      Free (taken.map (·.1)) (records.map (·.shortName)) := by
  induction services generalizing taken records with
  | nil =>
    rw [serviceRecords, List.forall₂_nil_left_iff, Except.ok.injEq, eq_comm]
    constructor
    · rintro rfl
      simp
    · exact And.left
  | cons s rest ih =>
    rw [serviceRecords_cons_eq_ok hr]
    simp only [ih]
    constructor
    · rintro ⟨record, others, hrecord, hname, ⟨hothers, hfree⟩, rfl⟩
      exact ⟨.cons hrecord hothers, free_cons.mpr ⟨hname, hfree⟩⟩
    · rintro ⟨hrecords, hfree⟩
      cases hrecords with
      | @cons _ record _ others hrecord hothers =>
        obtain ⟨hname, hfree⟩ := free_cons.mp hfree
        exact ⟨record, others, hrecord, hname, ⟨hothers, hfree⟩, rfl⟩

/-! ## Wire services -/

theorem checkWireServices_eq_ok {n : Naming} {messages : List Message}
    {taken : List (String × String)} {records : List ServiceRecord} :
    checkWireServices n messages taken records = .ok () ↔
      (∀ record ∈ records, ∀ m ∈ messages, m.wireName ≠ n.wireService record.shortName) ∧
      Free (taken.map (·.1)) (records.map fun record => n.wireService record.shortName) := by
  induction records generalizing taken with
  | nil => simp [checkWireServices]
  | cons record rest ih =>
    rw [checkWireServices]
    cases hfind : messages.find? (·.wireName == n.wireService record.shortName) with
    | some m =>
      have hm := List.mem_of_find?_eq_some hfind
      have hwire : m.wireName = n.wireService record.shortName := by
        simpa using List.find?_some hfind
      simp only [List.forall_mem_cons]
      constructor
      · intro h
        simp [throw, throwThe, MonadExceptOf.throw, bind, Except.bind] at h
      · rintro ⟨⟨hall, -⟩, -⟩
        exact absurd hwire (hall m hm)
    | none =>
      have hall : ∀ m ∈ messages, m.wireName ≠ n.wireService record.shortName := by
        simpa using hfind
      simp only [bind_eq_ok, claimIdent_eq_ok, List.forall_mem_cons, List.map_cons, free_cons]
      constructor
      · rintro ⟨taken', ⟨hname, rfl⟩, h⟩
        obtain ⟨hrest, hfree⟩ := ih.mp h
        exact ⟨⟨hall, hrest⟩, hname, hfree⟩
      · rintro ⟨⟨-, hrest⟩, hname, hfree⟩
        exact ⟨_, ⟨hname, rfl⟩, ih.mpr ⟨hrest, hfree⟩⟩

end RpcScaffold
