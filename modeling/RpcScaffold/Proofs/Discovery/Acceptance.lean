import RpcScaffold.Proofs.Discovery.Messages
import RpcScaffold.Proofs.Discovery.Records

/-! # What discovery accepts, and the graph it returns -/

namespace RpcScaffold

variable {r : Registry} {n : Naming} {g : ServiceGraph}

/-! ## The graph -/

/-- A graph that discovery may return. -/
structure Discovers (r : Registry) (n : Naming) (g : ServiceGraph) : Prop where
  nonempty : r.models ≠ [] ∨ r.services ≠ []
  identifiers : ∀ m ∈ r.models, isIdentifier m.name = true
  distinctNames : r.names.Nodup
  distinctIdents : (r.models.flatMap (·.idents n)).Nodup
  marked : r.markedServices ≠ []
  records : List.Forall₂ (IsRecord r n) r.markedServices g.records
  distinctShorts : (g.records.map (·.shortName)).Nodup
  built : g.messages.Built r n
  messages : g.messages.names = pending [] (g.records.flatMap (·.referencedModels))
  distinctServices : (g.records.map fun record => n.wireService record.shortName).Nodup
  services_ne_messages : ∀ record ∈ g.records, ∀ message ∈ g.messages.toList,
    message.wireName ≠ n.wireService record.shortName

theorem discover_eq_ok :
    discover r n = .ok g ↔
      (r.models ≠ [] ∨ r.services ≠ []) ∧ checkModels n [] [] r.models = .ok () ∧
      r.markedServices ≠ [] ∧ serviceRecords r n [] r.markedServices = .ok g.records ∧
      catalogOf r n {} (g.records.flatMap (·.referencedModels)) = .ok g.messages ∧
      checkWireServices n g.messages.toList [] g.records = .ok () := by
  rw [discover]
  simp only [check_eq_ok, bind_eq_ok, pure_eq_ok]
  simp only [Registry.isEmpty, Bool.and_eq_true, List.isEmpty_iff, not_and_or]
  constructor
  · rintro ⟨hnonempty, _, hmodels, hmarked, records, hrecords, messages, hmessages, _, hwires, rfl⟩
    exact ⟨hnonempty, hmodels, hmarked, hrecords, hmessages, hwires⟩
  · rintro ⟨hnonempty, hmodels, hmarked, hrecords, hmessages, hwires⟩
    exact ⟨hnonempty, _, hmodels, hmarked, _, hrecords, _, hmessages, _, hwires, rfl⟩

theorem discovers_of_ok (h : discover r n = .ok g) : Discovers r n g := by
  obtain ⟨hnonempty, hmodels, hmarked, hrecords, hmessages, hwires⟩ := discover_eq_ok.mp h
  obtain ⟨hids, hnames, hidents⟩ := checkModels_eq_ok.mp hmodels
  have hr := free_of_nil.mp hnames
  obtain ⟨hrecords, hshorts⟩ := (serviceRecords_eq_ok hr).mp hrecords
  obtain ⟨hbuilt, hcatalog⟩ := catalogOf_spec .empty hmessages
  obtain ⟨hne, hservices⟩ := checkWireServices_eq_ok.mp hwires
  exact ⟨hnonempty, hids, hr, free_of_nil.mp hidents, hmarked, hrecords, free_of_nil.mp hshorts,
    hbuilt, hcatalog, free_of_nil.mp hservices, hne⟩

/-! ## What the services need -/

namespace Discovers

variable (h : Discovers r n g)
include h

theorem exposes_iff {name : String} : name ∈ g.messages.names ↔ r.Exposes name := by
  rw [h.messages, mem_pending, List.mem_flatMap, Registry.Exposes]
  constructor
  · rintro ⟨⟨record, hrecord, hname⟩, -⟩
    obtain ⟨s, hs, hsr⟩ := exists_left h.records hrecord
    exact ⟨s, hs, (hsr.finds.mem_iff name).mp hname⟩
  · rintro ⟨s, hs, hname⟩
    obtain ⟨record, hrecord, hsr⟩ := exists_right h.records hs
    exact ⟨⟨record, hrecord, (hsr.finds.mem_iff name).mpr hname⟩, by simp⟩

theorem declared {name : String} (hname : r.Exposes name) : name ∈ r.names := by
  obtain ⟨s, hs, hreach⟩ := hname
  obtain ⟨record, -, hsr⟩ := exists_right h.records hs
  exact hsr.finds.declared name ((hsr.finds.mem_iff name).mpr hreach)

theorem model_accepted {m : Model} (hm : m ∈ r.models) (hname : r.Exposes m.name) :
    m.Accepted r n := by
  obtain ⟨message, hmessage, heq⟩ := List.mem_map.mp (h.exposes_iff.mpr hname)
  obtain ⟨k, hk, hok⟩ := h.built.ofModel message hmessage
  rw [heq, Registry.model?_eq_some h.distinctNames] at hk
  obtain rfl : m = k := List.inj_on_of_nodup_map h.distinctNames hm hk.1 hk.2.symm
  obtain ⟨hmapped, hdistinct, hfew⟩ := exists_ofModel_eq_ok.mp ⟨message, hok⟩
  refine ⟨?_, hmapped, hdistinct, hfew⟩
  intro f hf target ht
  obtain ⟨s, hs, hreach⟩ := hname
  exact h.declared ⟨s, hs, .step hreach ⟨m, hm, rfl, f, hf, ht⟩⟩

theorem accepted : r.Accepted n (g.records.map (·.shortName)) where
  nonempty := h.nonempty
  identifiers := h.identifiers
  distinctNames := h.distinctNames
  distinctIdents := h.distinctIdents
  marked := h.marked
  services := by
    rw [List.forall₂_map_right_iff]
    exact h.records.imp fun _ _ hsr => hsr.accepted
  distinctShorts := h.distinctShorts
  exposed m hm hname := h.model_accepted hm hname
  distinctServices := by
    rw [List.map_map]
    exact h.distinctServices
  services_ne_messages := by
    intro short hshort name hname
    obtain ⟨record, hrecord, rfl⟩ := List.mem_map.mp hshort
    obtain ⟨message, hmessage, rfl⟩ := List.mem_map.mp (h.exposes_iff.mpr hname)
    obtain ⟨m, -, hok⟩ := h.built.ofModel message hmessage
    have hwire := (ofModel_eq_ok.mp hok).1
    have hne := h.services_ne_messages record hrecord message hmessage
    rw [hwire.wireName, ← hwire.name] at hne
    exact hne.symm

/-- Every message is made of a declared model. -/
theorem exists_model {message : Message} (hm : message ∈ g.messages.toList) :
    ∃ m ∈ r.models, IsMessage n m message := by
  obtain ⟨m, hmodel, hok⟩ := h.built.ofModel message hm
  exact ⟨m, List.mem_of_find?_eq_some hmodel, (ofModel_eq_ok.mp hok).1⟩

theorem nodup_wireMessages : (r.names.map n.wireMessage).Nodup := by
  rw [Registry.names, List.map_map]
  refine List.Nodup.sublist ?_ h.distinctIdents
  induction r.models with
  | nil => exact List.Sublist.refl _
  | cons m rest ih => exact .cons_cons _ (ih.cons _)

theorem nodup_converterModules : (r.names.map Naming.converterModule).Nodup := by
  rw [Registry.names, List.map_map]
  refine List.Nodup.sublist ?_ h.distinctIdents
  induction r.models with
  | nil => exact List.Sublist.refl _
  | cons m rest ih => exact .cons _ (.cons_cons _ ih)

/-- Distinct messages have distinct wire names. -/
theorem nodup_wireNames : (g.messages.toList.map (·.wireName)).Nodup := by
  have hnames := h.built.indexed.nodup
  apply (hnames.of_map _).map_on
  intro a ha b hb heq
  obtain ⟨m, hm, hma⟩ := h.exists_model ha
  obtain ⟨k, hk, hkb⟩ := h.exists_model hb
  rw [hma.wireName, hkb.wireName] at heq
  have hname : m.name = k.name := List.inj_on_of_nodup_map h.nodup_wireMessages
    (List.mem_map_of_mem hm) (List.mem_map_of_mem hk) heq
  apply List.inj_on_of_nodup_map hnames ha hb
  rw [hma.name, hkb.name, hname]

end Discovers

/-! ## Accepted registries -/

namespace Registry.Accepted

variable {shorts : List String} (h : r.Accepted n shorts)
include h

theorem reachable_mem_names {s : Service} (hs : s ∈ r.markedServices) {name : String}
    (hname : r.Reachable s.seeds name) : name ∈ r.names := by
  induction hname with
  | seed hseed =>
    obtain ⟨short, -, hshort⟩ := exists_right h.services hs
    exact hshort.mem_names hseed
  | step hreach hrefers _ =>
    obtain ⟨m, hm, rfl, f, hf, ht⟩ := hrefers
    exact (h.exposed m hm ⟨s, hs, hreach⟩).declared f hf _ ht

theorem exists_messages {names : List String} (hnames : ∀ name ∈ names, r.Exposes name) :
    ∃ messages, catalogOf r n {} names = .ok messages := by
  apply exists_catalogOf .empty
  intro name hname
  obtain ⟨s, hs, hreach⟩ := hnames name hname
  obtain ⟨m, hm, rfl⟩ := Registry.mem_names.mp (h.reachable_mem_names hs hreach)
  have hacc := h.exposed m hm (hnames m.name hname)
  obtain ⟨message, hok⟩ := exists_ofModel_eq_ok.mpr ⟨hacc.mapped, hacc.distinct, hacc.few⟩
  exact ⟨m, message, (Registry.model?_eq_some h.distinctNames).mpr ⟨hm, rfl⟩, hok⟩

theorem exists_discover : ∃ g, discover r n = .ok g := by
  obtain ⟨records, hrecords, rfl⟩ := exists_records h.distinctNames h.services
    fun s hs name hname => h.reachable_mem_names hs hname
  have hmodels : checkModels n [] [] r.models = .ok () :=
    checkModels_eq_ok.mpr ⟨h.identifiers, free_of_nil.mpr h.distinctNames,
      free_of_nil.mpr h.distinctIdents⟩
  have hshorts : serviceRecords r n [] r.markedServices = .ok records :=
    (serviceRecords_eq_ok h.distinctNames).mpr ⟨hrecords, free_of_nil.mpr h.distinctShorts⟩
  have hexposed : ∀ name ∈ records.flatMap (·.referencedModels), r.Exposes name := by
    intro name hname
    obtain ⟨record, hrecord, hname⟩ := List.mem_flatMap.mp hname
    obtain ⟨s, hs, hsr⟩ := exists_left hrecords hrecord
    exact ⟨s, hs, (hsr.finds.mem_iff name).mp hname⟩
  obtain ⟨messages, hmessages⟩ := h.exists_messages hexposed
  obtain ⟨hbuilt, hnames⟩ := catalogOf_spec .empty hmessages
  have hwires : checkWireServices n messages.toList [] records = .ok () := by
    rw [checkWireServices_eq_ok]
    constructor
    · intro record hrecord message hmessage
      obtain ⟨m, -, hok⟩ := hbuilt.ofModel message hmessage
      have hname : message.name ∈ messages.names := List.mem_map_of_mem hmessage
      rw [hnames, Catalog.names_empty, List.nil_append, mem_pending] at hname
      have hex := hexposed _ hname.1
      have hwire := (ofModel_eq_ok.mp hok).1
      rw [hwire.wireName, ← hwire.name]
      exact (h.services_ne_messages _ (List.mem_map_of_mem hrecord) _ hex).symm
    · have hdistinct := h.distinctServices
      rw [List.map_map] at hdistinct
      exact free_of_nil.mpr hdistinct
  exact ⟨⟨records, messages⟩,
    discover_eq_ok.mpr ⟨h.nonempty, hmodels, h.marked, hshorts, hmessages, hwires⟩⟩

end Registry.Accepted

/-- Nothing else is refused, and nothing else is let through. -/
theorem discover_ok_iff (r : Registry) (n : Naming) :
    (∃ g, discover r n = .ok g) ↔ ∃ shorts, r.Accepted n shorts := by
  constructor
  · rintro ⟨g, hg⟩
    exact ⟨_, (discovers_of_ok hg).accepted⟩
  · rintro ⟨shorts, h⟩
    exact h.exists_discover

/-! ## What the services reach -/

/-- A record lists what its service reaches. The loop that finds it ends on every registry, and if
names are distinct the search is that loop. -/
theorem referencedModels_reachable (r : Registry) (n : Naming) :
    (∀ g, discover r n = .ok g →
      List.Forall₂ (fun s record => record.serviceName = s.name ∧ record.referencedModels.Nodup ∧
        ∀ name, name ∈ record.referencedModels ↔ r.Reachable s.seeds name)
        r.markedServices g.records) ∧
    (∀ seeds k w, r.models.length < k →
      Worklist.run r k (Worklist.start seeds) = .ok w → w.todo = []) ∧
    (r.names.Nodup → ∀ seeds, (∀ name ∈ seeds, name ∈ r.names) → ∀ k, r.models.length ≤ k →
      Worklist.run r k (Worklist.start seeds) =
        (reachFrom r r.models seeds).map fun names => ⟨names, []⟩) := by
  refine ⟨?_, ?_, ?_⟩
  · intro g hg
    exact (discovers_of_ok hg).records.imp fun s record h =>
      ⟨h.serviceName, h.finds.nodup, h.finds.mem_iff⟩
  · intro seeds k w hk hw
    exact Worklist.todo_eq_nil_of_run hk hw
  · intro hr seeds hseeds k hk
    exact Worklist.run_start hr hseeds hk

/-- Two models that refer to each other, and one of them to itself. Each service echoes. -/
def pingPong (shorts : List String) : Registry where
  models := [
    { name := "Ping", fields := [{ name := "next", type := .named "Pong" }] },
    { name := "Pong", fields := [
      { name := "back", type := .list (.named "Ping") }, { name := "self", type := .named "Pong" }] }]
  services := shorts.map fun short => {
    name := short ++ "Service"
    interfaces := [{ name := "Api", methods := [
      { name := "echo", params := [.named "Ping"], returns := .async (.named "Ping") }] }] }

def echoRecord (short : String) : ServiceRecord where
  serviceName := short ++ "Service"
  shortName := short
  interfaceName := "Api"
  methods := [{ name := "echo", input := "Ping", output := "Ping" }]
  referencedModels := ["Ping", "Pong"]

theorem serviceRecords_pingPong {shorts : List String} (hne : ∀ short ∈ shorts, short ≠ "")
    (hnodup : shorts.Nodup) :
    serviceRecords (pingPong shorts) {} [] (pingPong shorts).markedServices =
      .ok (shorts.map echoRecord) := by
  have hr : (pingPong shorts).names.Nodup := (by decide : (pingPong []).names.Nodup)
  have hping : "Ping" ∈ (pingPong shorts).names := (by decide : "Ping" ∈ (pingPong []).names)
  have hfinds : Finds (pingPong shorts) ["Ping", "Ping"] ["Ping", "Pong"] := by
    apply finds_of_run hr
    · simpa using hping
    · rfl
  have hmarked : (pingPong shorts).markedServices = (pingPong shorts).services := by
    simp [Registry.markedServices, pingPong]
  rw [serviceRecords_eq_ok hr, hmarked]
  constructor
  · rw [pingPong, List.forall₂_map_right_iff, List.forall₂_map_left_iff, List.forall₂_same]
    intro short hshort
    refine ⟨rfl, ⟨hne short hshort, rfl⟩, ⟨_, rfl, rfl, ?_, ?_⟩, hfinds⟩
    · exact .cons ⟨rfl, rfl, rfl, hping, hping⟩ .nil
    · exact List.nodup_singleton _
  · rw [List.map_map]
    simpa [Function.comp_def, echoRecord, free_of_nil] using hnodup

theorem exists_discover_of_records {records : List ServiceRecord}
    (h : (discover r n).toOption.map (·.records) = some records) :
    ∃ g, discover r n = .ok g ∧ g.records = records := by
  cases hg : discover r n with
  | error e => simp [hg, Except.toOption] at h
  | ok g =>
    refine ⟨g, rfl, ?_⟩
    simpa [hg, Except.toOption] using h

theorem exists_discover_pingPong :
    ∃ g, discover (pingPong ["Echo"]) {} = .ok g ∧ g.records = [echoRecord "Echo"] := by
  apply exists_discover_of_records
  rw [discover, serviceRecords_pingPong (by decide) (by decide)]
  decide +kernel

def pingMessage : Message where
  name := "Ping"
  wireName := "GrpcPing"
  fields := [{
    name := "next", wireName := "next", domainType := .named "Pong"
    wireType := .message "GrpcPong", cardinality := .scalar, ordinal := 1
    isNested := true, nullable := true }]

def pongMessage : Message where
  name := "Pong"
  wireName := "GrpcPong"
  fields := [{
    name := "back", wireName := "back", domainType := .list (.named "Ping")
    wireType := .message "GrpcPing", cardinality := .repeated, ordinal := 1
    isNested := true, nullable := false }, {
    name := "self", wireName := "self", domainType := .named "Pong"
    wireType := .message "GrpcPong", cardinality := .scalar, ordinal := 2
    isNested := true, nullable := true }]

theorem exists_messages_pingPong : ∃ g, discover (pingPong ["Echo"]) {} = .ok g ∧
    g.records = [echoRecord "Echo"] ∧ g.messages.toList = [pingMessage, pongMessage] := by
  obtain ⟨g, hg, hrecords⟩ := exists_discover_pingPong
  obtain ⟨-, -, -, -, hmessages, -⟩ := discover_eq_ok.mp hg
  have hcatalog : (catalogOf (pingPong ["Echo"]) {} {} ["Ping", "Pong"]).toOption.map
      (·.toList) = some [pingMessage, pongMessage] := by
    decide +kernel
  have hnames : g.records.flatMap (·.referencedModels) = ["Ping", "Pong"] := by
    rw [hrecords]
    rfl
  rw [hnames] at hmessages
  rw [hmessages] at hcatalog
  exact ⟨g, hg, hrecords, Option.some.inj hcatalog⟩

theorem referencedModels_reachable_pingPong : ∃ g, discover (pingPong ["Echo"]) {} = .ok g ∧
    g.records = [echoRecord "Echo"] ∧
    (∀ name, name ∈ ["Ping", "Pong"] ↔ (pingPong ["Echo"]).Reachable ["Ping", "Ping"] name) ∧
    ∃ w, Worklist.run (pingPong ["Echo"]) 3 (Worklist.start ["Ping"]) = .ok w ∧ w.todo = [] := by
  obtain ⟨hrecords, hends, -⟩ := referencedModels_reachable (pingPong ["Echo"]) {}
  obtain ⟨g, hg, heq⟩ := exists_discover_pingPong
  have hfound := hrecords g hg
  rw [heq] at hfound
  obtain ⟨record, hrecord, -, -, hmem⟩ := exists_right hfound (List.mem_singleton.mpr rfl)
  rw [List.mem_singleton.mp hrecord] at hmem
  have hrun : Worklist.run (pingPong ["Echo"]) 3 (Worklist.start ["Ping"]) =
      .ok ⟨["Ping", "Pong"], []⟩ := by decide +kernel
  exact ⟨g, hg, heq, hmem, _, hrun, hends _ 3 _ (by decide) hrun⟩

/-! ## Registries of one model -/

/-- One model and a service that echoes it. -/
def echoing (m : Model) (short interface : String) : Registry where
  models := [m]
  services := [{
    name := short ++ "Service"
    interfaces := [{ name := interface, methods := [
      { name := "echo", params := [.named m.name], returns := .async (.named m.name) }] }] }]

section

variable {m : Model} {message : Message} {short interface : String}

theorem reachFrom_echoing (hfields : ∀ f ∈ m.fields, f.type.referencedModel? = none) :
    reachFrom (echoing m short interface) [m] [m.name, m.name] = .ok [m.name] := by
  have hreferences : m.references (echoing m short interface) = .ok [] := by
    have hnone : m.fields.find? (fun f => f.type.referencedModel?.any fun name =>
        !(echoing m short interface).declares name) = none := by
      rw [List.find?_eq_none]
      intro f hf
      simp [hfields f hf]
    rw [Model.references, hnone]
    simp only [Except.ok.injEq, List.filterMap_eq_nil_iff]
    exact hfields
  have hfind : [m].find? (·.name == m.name) = some m := by simp
  have hleft : [m].eraseP (·.name == m.name) = [] := by simp
  rw [reachFrom_of_some hfind, hreferences, hleft]
  change (reachFrom _ [] [m.name] >>= fun names => pure (m.name :: names)) = _
  rw [reachFrom_of_none rfl, reachFrom]
  rfl

theorem serviceRecords_echoing (hsuffix : n.serviceSuffix = "Service")
    (hfields : ∀ f ∈ m.fields, f.type.referencedModel? = none) (hshort : short ≠ "") :
    serviceRecords (echoing m short interface) n [] (echoing m short interface).markedServices =
      .ok [{ serviceName := short ++ "Service", shortName := short, interfaceName := interface
             methods := [{ name := "echo", input := m.name, output := m.name }]
             referencedModels := [m.name] }] := by
  have hr : (echoing m short interface).names.Nodup := List.nodup_singleton m.name
  have hname : m.name ∈ (echoing m short interface).names := by simp [echoing, Registry.names]
  have hfinds : Finds (echoing m short interface) [m.name, m.name] [m.name] :=
    (reachFrom_eq_ok hr (by simpa using hname)).mp (reachFrom_echoing hfields)
  have hnamed : short ++ "Service" = short ++ n.serviceSuffix := by rw [hsuffix]
  rw [serviceRecords_eq_ok hr]
  refine ⟨.cons ⟨rfl, ⟨hshort, hnamed⟩, ⟨_, rfl, rfl, ?_, List.nodup_singleton _⟩, hfinds⟩ .nil, ?_⟩
  · exact .cons ⟨rfl, rfl, rfl, hname, hname⟩ .nil
  · exact free_of_nil.mpr (List.nodup_singleton _)

theorem exists_discover_echoing_of_suffix (hsuffix : n.serviceSuffix = "Service") (m : Model)
    (short interface : String) (hid : isIdentifier m.name = true) (hidents : (m.idents n).Nodup)
    (hfields : ∀ f ∈ m.fields, f.type.referencedModel? = none)
    (hmessage : Message.ofModel n m = .ok message) (hshort : short ≠ "")
    (hservice : n.wireMessage m.name ≠ n.wireService short) :
    ∃ g, discover (echoing m short interface) n = .ok g ∧ g.messages.toList = [message] ∧
      g.records = [{
        serviceName := short ++ "Service", shortName := short, interfaceName := interface
        methods := [{ name := "echo", input := m.name, output := m.name }]
        referencedModels := [m.name] }] := by
  have hmodel : (echoing m short interface).model? m.name = some m := by
    simp [Registry.model?, echoing]
  have hnew : ({} : Catalog).contains message.name = false := rfl
  have hlist : (({} : Catalog).insert message).toList = [message] := Catalog.toList_insert hnew
  have hcatalog : catalogOf (echoing m short interface) n {} [m.name] =
      .ok (({} : Catalog).insert message) :=
    (catalogOf_cons_eq_ok rfl).mpr ⟨m, message, hmodel, hmessage, rfl⟩
  refine ⟨⟨_, ({} : Catalog).insert message⟩, discover_eq_ok.mpr ⟨.inl (by simp [echoing]), ?_,
    by simp [echoing, Registry.markedServices], serviceRecords_echoing hsuffix hfields hshort,
    hcatalog, ?_⟩, hlist, rfl⟩
  · rw [checkModels_eq_ok]
    refine ⟨by simpa [echoing] using hid, free_of_nil.mpr (List.nodup_singleton _), ?_⟩
    simpa [echoing, free_of_nil] using hidents
  · rw [← (ofModel_eq_ok.mp hmessage).1.wireName] at hservice
    rw [checkWireServices_eq_ok, hlist]
    exact ⟨by simpa using hservice, free_of_nil.mpr (List.nodup_singleton _)⟩

theorem exists_discover_echoing (m : Model) (short interface : String)
    (hid : isIdentifier m.name = true) (hidents : (m.idents {}).Nodup)
    (hfields : ∀ f ∈ m.fields, f.type.referencedModel? = none)
    (hmessage : Message.ofModel {} m = .ok message) (hshort : short ≠ "")
    (hservice : ({} : Naming).wireMessage m.name ≠ ({} : Naming).wireService short) :
    ∃ g, discover (echoing m short interface) {} = .ok g ∧ g.messages.toList = [message] ∧
      g.records = [{
        serviceName := short ++ "Service", shortName := short, interfaceName := interface
        methods := [{ name := "echo", input := m.name, output := m.name }]
        referencedModels := [m.name] }] :=
  exists_discover_echoing_of_suffix rfl m short interface hid hidents hfields hmessage hshort hservice

end

end RpcScaffold
