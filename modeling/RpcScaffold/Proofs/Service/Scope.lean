import RpcScaffold.Proofs.Generation.Check
import RpcScaffold.Proofs.Schema.Complete
import RpcScaffold.Service.Proxy

/-!
# The names in scope of a service module

Declared names, names derived from them and library names meet in one name space. Discovery keeps
some families apart, endings keep others apart, and for the rest the declarations have to.
-/

namespace RpcScaffold

open Text

/-! ## Scopes -/

def Proxy.library : List String := ["Channel", "Status"]

/-- What a proxy module imports and defines. -/
def Proxy.scope (p : Proxy) : List String :=
  Proxy.library ++ p.converters ++ p.models ++ [p.client, p.type]

def Adapter.library : List String := ["Arc", "Request", "Response", "Status"]

/-- What an adapter module imports and defines. -/
def Adapter.scope (a : Adapter) : List String :=
  Adapter.library ++ a.converters ++ [a.serverTrait, a.serverType] ++ a.wireTypes
    ++ [a.interfaceName, a.type]

/-- Models may bear any other name in the scope. -/
def Proxy.Apart (p : Proxy) : Prop :=
  ∀ model ∈ p.models, model ∉ Proxy.library ++ p.converters ++ [p.client, p.type]

/-- The pairs of names that nothing else keeps apart. -/
structure Adapter.Apart (a : Adapter) : Prop where
  serverTrait : a.serverTrait ∉ Adapter.library ++ a.converters
  wireTypes : ∀ message ∈ a.wireTypes, message ∉ Adapter.library ++ [a.serverType, a.type]
  interfaceName : a.interfaceName ∉ Adapter.library ++ a.converters ++ [a.serverType, a.type] ++
    [a.serverTrait] ++ a.wireTypes

/-! ## Endings -/

def EndsIn (ending name : String) : Prop := ending.toList <:+ name.toList

theorem EndsIn.append (front ending : String) : EndsIn ending (front ++ ending) := by
  rw [EndsIn, String.toList_append]
  exact List.suffix_append _ _

/-- No name ends in both. -/
def Distinct (e e' : String) : Prop := ¬ e.toList <:+ e'.toList ∧ ¬ e'.toList <:+ e.toList

instance (e e' : String) : Decidable (Distinct e e') := by
  unfold Distinct
  infer_instance

theorem Distinct.ne {e e' : String} (h : Distinct e e') {a b : String} (ha : EndsIn e a)
    (hb : EndsIn e' b) : a ≠ b := by
  rintro rfl
  rcases List.suffix_or_suffix_of_suffix ha hb with hsuffix | hsuffix
  · exact h.1 hsuffix
  · exact h.2 hsuffix

theorem Distinct.not_mem {e : String} {names : List String} (h : ∀ name ∈ names, Distinct name e)
    {a : String} (ha : EndsIn e a) : a ∉ names := by
  intro hmem
  exact (h a hmem).ne List.suffix_rfl ha rfl

/-! ## The models of the methods -/

theorem nodup_foldl {seen : List String} (h : seen.Nodup) (names : List String) :
    (names.foldl (fun seen name => if seen.contains name then seen else seen ++ [name])
      seen).Nodup := by
  induction names generalizing seen with
  | nil => exact h
  | cons name rest ih =>
    rw [List.foldl_cons]
    split_ifs with hname
    · exact ih h
    · apply ih
      have hnew : name ∉ seen := by simpa using hname
      refine List.nodup_append.mpr ⟨h, List.nodup_singleton name, ?_⟩
      rintro a ha b hb rfl
      rw [List.mem_singleton.mp hb] at ha
      exact hnew ha

theorem mem_of_mem_foldl {seen names : List String} {x : String}
    (h : x ∈ names.foldl (fun seen name => if seen.contains name then seen else seen ++ [name])
      seen) : x ∈ seen ∨ x ∈ names := by
  induction names generalizing seen with
  | nil => exact .inl h
  | cons name rest ih =>
    rw [List.foldl_cons] at h
    split_ifs at h with hname
    · exact (ih h).imp_right (List.mem_cons_of_mem name)
    · rcases ih h with hx | hx
      · rw [List.mem_append, List.mem_singleton] at hx
        rcases hx with hx | rfl
        · exact .inl hx
        · exact .inr List.mem_cons_self
      · exact .inr (List.mem_cons_of_mem name hx)

theorem nodup_methodModels (record : ServiceRecord) : record.methodModels.Nodup :=
  nodup_foldl List.nodup_nil _

theorem exists_method {record : ServiceRecord} {model : String} (h : model ∈ record.methodModels) :
    ∃ c ∈ record.methods, model = c.input ∨ model = c.output := by
  rcases mem_of_mem_foldl h with h | h
  · cases h
  · simpa using h

/-! ## What discovery keeps apart -/

theorem idents_perm (n : Naming) (models : List Model) : (models.flatMap (·.idents n)).Perm
    (models.map (fun m => n.wireMessage m.name) ++
      models.map fun m => Naming.converterModule m.name) := by
  induction models with
  | nil => exact .refl _
  | cons m rest ih =>
    rw [List.flatMap_cons, List.map_cons, List.map_cons]
    exact ((ih.cons _).trans List.perm_middle.symm).cons _

namespace Discovers

variable {r : Registry} {s : Settings} {g : ServiceGraph} (h : Discovers r s.naming g)
  {record : ServiceRecord} (hrecord : record ∈ g.records)
include h hrecord

theorem exposes_of_methodModels {model : String} (hmodel : model ∈ record.methodModels) :
    r.Exposes model := by
  obtain ⟨c, hc, hcases⟩ := exists_method hmodel
  obtain ⟨hinput, houtput⟩ := h.exposes_of_contract hrecord hc
  rcases hcases with rfl | rfl
  · exact hinput
  · exact houtput

theorem methodModels_subset : ∀ model ∈ record.methodModels, model ∈ r.names :=
  fun _ hmodel => h.declared (h.exposes_of_methodModels hrecord hmodel)

theorem nodup_converters : (record.methodModels.map Naming.converterModule).Nodup := by
  apply (nodup_methodModels record).map_on
  intro a ha b hb heq
  exact List.inj_on_of_nodup_map h.nodup_converterModules (h.methodModels_subset hrecord a ha)
    (h.methodModels_subset hrecord b hb) heq

theorem nodup_wireTypes : (record.methodModels.map s.naming.wireMessage).Nodup := by
  apply (nodup_methodModels record).map_on
  intro a ha b hb heq
  exact List.inj_on_of_nodup_map h.nodup_wireMessages (h.methodModels_subset hrecord a ha)
    (h.methodModels_subset hrecord b hb) heq

theorem wireMessage_ne_wireService {model : String} (hmodel : model ∈ record.methodModels) :
    s.naming.wireMessage model ≠ s.naming.wireService record.shortName := by
  have hmessage := h.wireMessage_mem (h.exposes_of_methodModels hrecord hmodel)
  obtain ⟨m, hm, heq⟩ := List.mem_map.mp hmessage
  rw [← heq]
  exact h.services_ne_messages record hrecord m hm

omit hrecord in
theorem wireMessage_ne_converterModule {a b : String} (ha : a ∈ r.names) (hb : b ∈ r.names) :
    s.naming.wireMessage a ≠ Naming.converterModule b := by
  have hidents := h.distinctIdents
  rw [(idents_perm s.naming r.models).nodup_iff, List.nodup_append] at hidents
  obtain ⟨m, hm, rfl⟩ := Registry.mem_names.mp ha
  obtain ⟨k, hk, rfl⟩ := Registry.mem_names.mp hb
  exact hidents.2.2 _ (List.mem_map.mpr ⟨m, hm, rfl⟩) _ (List.mem_map.mpr ⟨k, hk, rfl⟩)

end Discovers

/-! ## Apart or not -/

theorem nodup_append_iff {as bs : List String} :
    (as ++ bs).Nodup ↔ as.Nodup ∧ bs.Nodup ∧ ∀ b ∈ bs, b ∉ as := by
  rw [List.nodup_append]
  constructor
  · rintro ⟨has, hbs, hne⟩
    exact ⟨has, hbs, fun b hb hmem => hne b hmem b hb rfl⟩
  · rintro ⟨has, hbs, hnot⟩
    refine ⟨has, hbs, ?_⟩
    rintro a ha b hb rfl
    exact hnot a hb ha

theorem endsIn_converter {record : ServiceRecord} {name : String}
    (hname : name ∈ record.methodModels.map Naming.converterModule) : EndsIn "_converter" name := by
  obtain ⟨model, -, rfl⟩ := List.mem_map.mp hname
  exact .append _ _

/-- A name with another ending is no library name and no converter module. -/
theorem not_mem_library {library : List String} {e : String} (record : ServiceRecord)
    (hlibrary : ∀ name ∈ library, Distinct name e) (hconverter : Distinct "_converter" e)
    {name : String} (hname : EndsIn e name) :
    name ∉ library ++ record.methodModels.map Naming.converterModule := by
  intro hmem
  rcases List.mem_append.mp hmem with hmem | hmem
  · exact Distinct.not_mem hlibrary hname hmem
  · exact hconverter.ne (endsIn_converter hmem) hname rfl

section

variable {r : Registry} {s : Settings} {g : ServiceGraph} (h : Discovers r s.naming g)
  {record : ServiceRecord} (hrecord : record ∈ g.records)
include h hrecord

theorem nodup_library {library : List String} (hnodup : library.Nodup)
    (hlibrary : ∀ name ∈ library, Distinct name "_converter") :
    (library ++ record.methodModels.map Naming.converterModule).Nodup := by
  refine nodup_append_iff.mpr ⟨hnodup, h.nodup_converters hrecord, ?_⟩
  intro name hname
  exact Distinct.not_mem hlibrary (endsIn_converter hname)

/-! ## Proxies -/

/-- Without its models, a proxy module clashes only if the wire side has no prefix. -/
theorem nodup_proxy : (Proxy.library ++ (Proxy.ofRecord s record).converters ++
    [(Proxy.ofRecord s record).client, (Proxy.ofRecord s record).type]).Nodup ↔
      s.naming.wirePrefix ≠ "" := by
  have hfree : ∀ short name, name = short ++ "Client" →
      name ∉ Proxy.library ++ record.methodModels.map Naming.converterModule := by
    rintro short name rfl
    exact not_mem_library record (by decide) (by decide) (.append short "Client")
  have hsame : s.naming.clientType record.shortName = Naming.proxyType record.shortName ↔
      s.naming.wirePrefix = "" := by
    rw [Naming.clientType, Naming.wireService, Naming.proxyType, String.append_assoc]
    exact String.append_eq_right_iff
  constructor
  · intro hnodup hpre
    have hpair := (nodup_append_iff.mp hnodup).2.1
    rw [List.nodup_cons, List.mem_singleton] at hpair
    exact hpair.1 (hsame.mpr hpre)
  · intro hpre
    refine nodup_append_iff.mpr ⟨nodup_library h hrecord (by decide) (by decide), ?_, ?_⟩
    · rw [List.nodup_cons, List.mem_singleton]
      exact ⟨fun heq => hpre (hsame.mp heq), List.nodup_singleton _⟩
    · refine List.forall_mem_cons.mpr ⟨hfree _ _ rfl, List.forall_mem_singleton.mpr ?_⟩
      exact hfree _ _ rfl

theorem nodup_proxy_scope_iff : (Proxy.ofRecord s record).scope.Nodup ↔
    s.naming.wirePrefix ≠ "" ∧ (Proxy.ofRecord s record).Apart := by
  have hperm : (Proxy.ofRecord s record).scope.Perm
      (Proxy.library ++ (Proxy.ofRecord s record).converters ++
        [(Proxy.ofRecord s record).client, (Proxy.ofRecord s record).type] ++
        (Proxy.ofRecord s record).models) := by
    rw [List.perm_iff_count]
    intro name
    simp only [Proxy.scope, List.count_append]
    omega
  rw [hperm.nodup_iff, nodup_append_iff, nodup_proxy h hrecord]
  constructor
  · rintro ⟨hpre, -, hmodels⟩
    exact ⟨hpre, hmodels⟩
  · rintro ⟨hpre, hmodels⟩
    exact ⟨hpre, nodup_methodModels record, hmodels⟩

/-! ## Adapters -/

theorem nodup_adapter : (Adapter.library ++ (Adapter.ofRecord s record).converters ++
    [(Adapter.ofRecord s record).serverType, (Adapter.ofRecord s record).type]).Nodup := by
  have hserver : EndsIn "Server" (s.naming.serverType record.shortName) := .append _ _
  have htype : EndsIn "Service" (s.naming.adapterType record.shortName) := .append _ _
  refine nodup_append_iff.mpr ⟨nodup_library h hrecord (by decide) (by decide), ?_, ?_⟩
  · rw [List.nodup_cons, List.mem_singleton]
    exact ⟨(show Distinct "Server" "Service" by decide).ne hserver htype, List.nodup_singleton _⟩
  · refine List.forall_mem_cons.mpr ⟨?_, List.forall_mem_singleton.mpr ?_⟩
    · exact not_mem_library record (by decide) (by decide) hserver
    · exact not_mem_library record (by decide) (by decide) htype

omit h hrecord in
/-- The server type and the adapter type continue the name of the server trait. -/
theorem serverTrait_not_mem_types : (Adapter.ofRecord s record).serverTrait ∉
    [(Adapter.ofRecord s record).serverType, (Adapter.ofRecord s record).type] := by
  have hlonger : ∀ ending : String, ending ≠ "" → s.naming.wireService record.shortName ≠
      s.naming.wireService record.shortName ++ ending := by
    intro ending hending heq
    exact hending (String.append_eq_left_iff.mp heq.symm)
  rw [List.mem_pair]
  rintro (heq | heq)
  · exact hlonger "Server" (by decide) heq
  · exact hlonger "Service" (by decide) heq

/-- Discovery has kept the wire messages off the converter modules and the server trait. -/
theorem wireType_not_mem {message : String}
    (hmessage : message ∈ (Adapter.ofRecord s record).wireTypes) :
    message ∉
      (Adapter.ofRecord s record).converters ++ [(Adapter.ofRecord s record).serverTrait] := by
  obtain ⟨model, hmodel, rfl⟩ := List.mem_map.mp hmessage
  intro hmem
  rcases List.mem_append.mp hmem with hmem | hmem
  · obtain ⟨other, hother, heq⟩ := List.mem_map.mp hmem
    exact h.wireMessage_ne_converterModule (h.methodModels_subset hrecord model hmodel)
      (h.methodModels_subset hrecord other hother) heq.symm
  · exact h.wireMessage_ne_wireService hrecord hmodel (List.mem_singleton.mp hmem)

theorem nodup_adapter_scope_iff :
    (Adapter.ofRecord s record).scope.Nodup ↔ (Adapter.ofRecord s record).Apart := by
  have hbase := nodup_adapter h hrecord
  have htrait : (Adapter.ofRecord s record).serverTrait ∉
      [(Adapter.ofRecord s record).serverType, (Adapter.ofRecord s record).type] :=
    serverTrait_not_mem_types
  have hwireTypes : (Adapter.ofRecord s record).wireTypes.Nodup := h.nodup_wireTypes hrecord
  have hfree : ∀ message ∈ (Adapter.ofRecord s record).wireTypes, message ∉
      (Adapter.ofRecord s record).converters ++ [(Adapter.ofRecord s record).serverTrait] :=
    fun _ hmessage => wireType_not_mem h hrecord hmessage
  generalize Adapter.ofRecord s record = a at hbase htrait hwireTypes hfree ⊢
  have hperm : a.scope.Perm (Adapter.library ++ a.converters ++ [a.serverType, a.type] ++
      [a.serverTrait] ++ a.wireTypes ++ [a.interfaceName]) := by
    rw [List.perm_iff_count]
    intro name
    simp only [Adapter.scope, List.count_append, List.count_cons, List.count_nil]
    omega
  rw [hperm.nodup_iff, nodup_append_iff, nodup_append_iff, nodup_append_iff,
    List.forall_mem_singleton, List.forall_mem_singleton]
  constructor
  · rintro ⟨⟨⟨-, -, hserver⟩, -, hwire⟩, -, hinterface⟩
    refine ⟨fun hmem => hserver (List.mem_append_left _ hmem), ?_, hinterface⟩
    intro message hmessage hmem
    apply hwire message hmessage
    grind
  · rintro ⟨hserver, hwire, hinterface⟩
    refine ⟨⟨⟨hbase, List.nodup_singleton _, ?_⟩, hwireTypes, ?_⟩, List.nodup_singleton _,
      hinterface⟩
    · intro hmem
      rcases List.mem_append.mp hmem with hmem | hmem
      · exact hserver hmem
      · exact htrait hmem
    · intro message hmessage hmem
      have hnot := hfree message hmessage
      have hnot' := hwire message hmessage
      grind

end

/-- The prefix and the pairs in `Apart` decide, and no other pair can clash. -/
theorem scopes_nodup_iff {r : Registry} {s : Settings} {g : ServiceGraph}
    (h : discover r s.naming = .ok g) {record : ServiceRecord} (hrecord : record ∈ g.records) :
    ((Proxy.ofRecord s record).scope.Nodup ↔
        s.naming.wirePrefix ≠ "" ∧ (Proxy.ofRecord s record).Apart) ∧
      ((Adapter.ofRecord s record).scope.Nodup ↔ (Adapter.ofRecord s record).Apart) :=
  ⟨nodup_proxy_scope_iff (discovers_of_ok h) hrecord,
    nodup_adapter_scope_iff (discovers_of_ok h) hrecord⟩

theorem scopes_nodup_pingPong : ∃ g, discover (pingPong ["Echo"]) {} = .ok g ∧
    ∀ record ∈ g.records, (Proxy.ofRecord {} record).scope.Nodup ∧
      (Adapter.ofRecord {} record).scope.Nodup := by
  obtain ⟨g, hg, hrecords⟩ := exists_discover_pingPong
  refine ⟨g, hg, ?_⟩
  intro record hrecord
  have hiff := scopes_nodup_iff (s := {}) hg hrecord
  rw [hrecords, List.mem_singleton] at hrecord
  subst hrecord
  have hproxy : (Proxy.ofRecord {} (echoRecord "Echo")).Apart := by
    unfold Proxy.Apart
    decide +kernel
  exact ⟨hiff.1.mpr ⟨by decide, hproxy⟩,
    hiff.2.mpr ⟨by decide +kernel, by decide +kernel, by decide +kernel⟩⟩

/-- The wire message of the model bears the name of the adapter type. -/
theorem not_nodup_adapter_scope_people :
    ∃ g, discover (echoing { name := "PeopleService" } "People" "PeopleApi") {} = .ok g ∧
      ∃ record ∈ g.records, ¬ (Adapter.ofRecord {} record).scope.Nodup := by
  obtain ⟨g, hg, -, hrecords⟩ := exists_discover_echoing { name := "PeopleService" } "People"
    "PeopleApi" (by decide) (by decide +kernel) (by decide) rfl (by decide) (by decide +kernel)
  refine ⟨g, hg, _, by rw [hrecords]; exact List.mem_singleton_self _, ?_⟩
  decide +kernel

end RpcScaffold
