import RpcScaffold.Proofs.Generation.Legality
import RpcScaffold.Proofs.Naming.Recasing

/-!
# Names of the code made from the schema

Other generators make types, methods and fields of the schema, and put each name into their own
case. Converters, adapters and proxies call all of them by names of our own, so a name of the schema
has to be in that case already.
-/

namespace RpcScaffold

open Text

/-! ## Stubs -/

/-- The type made of the block. -/
def Schema.Block.stub : Schema.Block → String
  | .service name _ | .message name _ => upperCamel name

/-- The methods or fields of that type. -/
def Schema.Block.stubMembers : Schema.Block → List String
  | .service _ rpcs => rpcs.map fun r => snakeCase r.name
  | .message _ fields => fields.map fun f => snakeCase f.name

theorem Schema.Block.stubMembers_ofRecord (n : Naming) (record : ServiceRecord) :
    (ofRecord n record).stubMembers =
      record.methods.map fun c => snakeCase (Naming.rpcMethod c.name) := by
  simp [ofRecord, stubMembers, Rpc.ofContract]

theorem Schema.Block.stubMembers_ofMessage (m : Message) :
    (ofMessage m).stubMembers = m.fields.map fun f => snakeCase f.wireName := by
  simp [ofMessage, stubMembers, Field.ofMessageField]

/-- A caller escapes the members of a stub, so it meets them exactly if it has their names. -/
theorem map_rawIdent_eq_iff {α : Type} {xs : List α} {called made : α → String}
    (hcalled : ∀ x ∈ xs, IsNamed (called x)) (hmade : ∀ x ∈ xs, IsNamed (made x)) :
    (xs.map fun x => rawIdent (called x)) = (xs.map made).map rawIdent ↔
      ∀ x ∈ xs, made x = called x := by
  rw [List.map_map, List.map_inj_left]
  apply forall₂_congr
  intro x hx
  rw [Function.comp_apply, rawIdent_eq_iff (hcalled x hx) (hmade x hx), eq_comm]

section

variable {r : Registry} {s : Settings} {g : ServiceGraph}

/-! ## Methods -/

theorem methodIdents_iff (n : Naming) (record : ServiceRecord) :
    (record.methods.map fun c => Naming.methodIdent c.name) =
        (Schema.Block.ofRecord n record).stubMembers.map rawIdent ↔
      ∀ c ∈ record.methods, snakeCase (Naming.rpcMethod c.name) = snakeCase c.name := by
  rw [Schema.Block.stubMembers_ofRecord]
  exact map_rawIdent_eq_iff (fun c _ => isNamed_snakeCase c.name) fun c _ => isNamed_snakeCase _

/-- A name that is its own again after a change to camel case and back. -/
def ComesBack (name : String) : Prop := HasRegularLetters name ∧ Survives name

theorem ComesBack.snakeCase_rpcMethod {name : String} (h : ComesBack name) :
    snakeCase (Naming.rpcMethod name) = snakeCase name :=
  (snakeCase_upperCamel_iff h.1).mpr h.2

/-- Adapters and proxies call the methods of the stub by their names if and only if each method has
one snake case, as it is declared and in camel case. That is so if and only if camel case keeps the
words of its name apart. No two methods of that kind share a method of the stub. -/
theorem stubMethods_iff (h : discover r s.naming = .ok g) {record : ServiceRecord}
    (hrecord : record ∈ g.records) :
    (∀ c ∈ record.methods, HasRegularLetters c.name →
      (snakeCase (Naming.rpcMethod c.name) = snakeCase c.name ↔ Survives c.name)) ∧
    ((Proxy.ofRecord s record).methods.map (·.ident) =
        (Schema.Block.ofRecord s.naming record).stubMembers.map rawIdent ↔
      ∀ c ∈ record.methods, snakeCase (Naming.rpcMethod c.name) = snakeCase c.name) ∧
    ((Adapter.ofRecord s record).methods.map (·.ident) =
        (Schema.Block.ofRecord s.naming record).stubMembers.map rawIdent ↔
      ∀ c ∈ record.methods, snakeCase (Naming.rpcMethod c.name) = snakeCase c.name) ∧
    record.methods.Pairwise fun c d => ComesBack c.name → ComesBack d.name →
      snakeCase (Naming.rpcMethod c.name) ≠ snakeCase (Naming.rpcMethod d.name) := by
  refine ⟨fun c _ => snakeCase_upperCamel_iff, ?_, ?_, ?_⟩
  · rw [Proxy.idents_ofRecord]
    exact methodIdents_iff s.naming record
  · rw [Adapter.idents_ofRecord]
    exact methodIdents_iff s.naming record
  · obtain ⟨service, -, hservice⟩ := exists_left (discovers_of_ok h).records hrecord
    have hdistinct := List.pairwise_map.mp hservice.nodup_rpcMethods
    apply hdistinct.imp
    intro c d hne hc hd heq
    rw [hc.snakeCase_rpcMethod, hd.snakeCase_rpcMethod] at heq
    exact hne (upperCamel_eq_of_snakeCase_eq hc.1 hd.1 heq)

end

/-- One model without fields, and a service with these methods. -/
def offering (methods : List String) : Registry where
  models := [{ name := "Note" }]
  services := [{
    name := "NotesService"
    interfaces := [{ name := "NotesApi", methods := methods.map fun name =>
      { name := name, params := [.named "Note"], returns := .async (.named "Note") } }] }]

section

variable {methods : List String}

theorem exposes_offering {name : String} (h : (offering methods).Exposes name) : name = "Note" := by
  obtain ⟨service, hservice, hreach⟩ := h
  cases hreach with
  | seed hseed =>
    rw [List.mem_singleton.mp (List.mem_filter.mp hservice).1, Service.seeds, List.nil_append,
      List.mem_flatMap] at hseed
    obtain ⟨m, hm, hname⟩ := hseed
    obtain ⟨method, -, rfl⟩ : ∃ method ∈ methods, _ = m := by simpa using hm
    have hnotes : name ∈ ["Note", "Note"] := hname
    simpa using hnotes
  | step _ hrefers =>
    obtain ⟨m, hm, -, f, hf, -⟩ := hrefers
    rw [List.mem_singleton.mp hm] at hf
    cases hf

theorem accepted_offering (h : (methods.map Naming.rpcMethod).Nodup) :
    (offering methods).Accepted {} ["Notes"] where
  nonempty := .inl (by simp [offering])
  identifiers := (by decide : ∀ m ∈ (offering []).models, isIdentifier m.name = true)
  distinctNames := (by decide : (offering []).names.Nodup)
  distinctIdents := (by decide +kernel : ((offering []).models.flatMap (·.idents {})).Nodup)
  marked := by simp [offering, Registry.markedServices]
  services := by
    have hnote : "Note" ∈ (offering methods).names := (by decide : "Note" ∈ (offering []).names)
    refine .cons ⟨⟨by decide, rfl⟩, ⟨_, rfl, ?_, ?_⟩, by simp⟩ .nil
    · rw [List.forall_mem_map]
      exact fun name _ => ⟨"Note", hnote, "Note", hnote, rfl, rfl⟩
    · rwa [List.map_map]
  distinctShorts := by decide
  exposed m hm _ := by
    rw [List.mem_singleton.mp hm]
    exact ⟨by simp, by simp, List.nodup_nil, by decide⟩
  distinctServices := by decide
  services_ne_messages short hshort name hname := by
    rw [List.mem_singleton.mp hshort, exposes_offering hname]
    decide +kernel

theorem exists_discover_offering (h : (methods.map Naming.rpcMethod).Nodup) :
    ∃ g, discover (offering methods) {} = .ok g ∧
      ∃ record ∈ g.records, record.methods = methods.map (⟨·, "Note", "Note"⟩) := by
  obtain ⟨g, hg⟩ := (accepted_offering h).exists_discover
  have hmarked : (offering methods).services.head (by simp [offering]) ∈
      (offering methods).markedServices := by simp [offering, Registry.markedServices]
  obtain ⟨record, hrecord, hservice⟩ := exists_right (discovers_of_ok hg).records hmarked
  obtain ⟨i, hi, -, hcontracts, -⟩ := hservice.interface
  obtain rfl := Option.some.inj hi
  have hnote : "Note" ∈ (offering methods).names := (by decide : "Note" ∈ (offering []).names)
  refine ⟨g, hg, record, hrecord,
    List.right_unique_forall₂' (fun _ _ _ hc hd => hc.unique hd) hcontracts ?_⟩
  rw [List.forall₂_map_left_iff, List.forall₂_map_right_iff, List.forall₂_same]
  exact fun name _ => ⟨rfl, rfl, rfl, hnote, hnote⟩

end

theorem stubMethods_offering : ∃ g, discover (offering ["get_by_id", "list"]) {} = .ok g ∧
    ∃ record ∈ g.records,
      (Schema.Block.ofRecord {} record).stubMembers.map rawIdent = ["get_by_id", "list"] ∧
      (Proxy.ofRecord {} record).methods.map (·.ident) = ["get_by_id", "list"] := by
  obtain ⟨g, hg, record, hrecord, hmethods⟩ :=
    exists_discover_offering
      (by decide +kernel : (["get_by_id", "list"].map Naming.rpcMethod).Nodup)
  obtain ⟨hrpc, hproxy, -, -⟩ := stubMethods_iff (s := {}) hg hrecord
  have hcases : ∀ c ∈ record.methods, snakeCase (Naming.rpcMethod c.name) = snakeCase c.name := by
    intro c hc
    have hname : c.name = "get_by_id" ∨ c.name = "list" := by
      rw [hmethods] at hc
      rcases List.mem_pair.mp hc with rfl | rfl
      · exact .inl rfl
      · exact .inr rfl
    apply (hrpc c hc _).mpr
    · rcases hname with hname | hname <;> rw [hname]
      · exact survives_of_isAlpha (by decide +kernel)
      · exact survives_of_isAlpha (by decide +kernel)
    · apply hasRegularLetters_of_isAscii
      rcases hname with hname | hname <;> rw [hname] <;> decide
  have hidents : (Proxy.ofRecord {} record).methods.map (·.ident) = ["get_by_id", "list"] := by
    rw [Proxy.idents_ofRecord, hmethods]
    decide +kernel
  exact ⟨g, hg, record, hrecord, (hproxy.mpr hcases).symm.trans hidents, hidents⟩

/-- Two accepted methods get one method of the stub, and only one of them is called by its name. -/
theorem stubMethods_ne_offering :
    ∃ g, discover (offering ["get_a_b", "get_ab"]) {} = .ok g ∧ ∃ record ∈ g.records,
      (Schema.Block.ofRecord {} record).stubMembers = ["get_ab", "get_ab"] ∧
      (Proxy.ofRecord {} record).methods.map (·.ident) = ["get_a_b", "get_ab"] ∧
      (Adapter.ofRecord {} record).methods.map (·.ident) = ["get_a_b", "get_ab"] := by
  obtain ⟨g, hg, record, hrecord, hmethods⟩ :=
    exists_discover_offering
      (by decide +kernel : (["get_a_b", "get_ab"].map Naming.rpcMethod).Nodup)
  refine ⟨g, hg, record, hrecord, ?_, ?_, ?_⟩
  · rw [Schema.Block.stubMembers_ofRecord, hmethods]
    decide +kernel
  · rw [Proxy.idents_ofRecord, hmethods]
    decide +kernel
  · rw [Adapter.idents_ofRecord, hmethods]
    decide +kernel

/-! ## Types and fields -/

section

variable {r : Registry} {g : ServiceGraph}

theorem wireIdents_iff {s : Settings} (hs : s.Sound) {k : Model} {m : Message}
    (hk : IsMessage s.naming k m) :
    m.fields.map Side.wire.ident = (Schema.Block.ofMessage m).stubMembers.map rawIdent ↔
      ∀ f ∈ m.fields, snakeCase f.wireName = f.wireName := by
  rw [Schema.Block.stubMembers_ofMessage]
  apply map_rawIdent_eq_iff
  · intro f hf
    obtain ⟨p, -, hp⟩ := exists_left hk.fields hf
    rw [hp.wireName_eq]
    exact hs.isNamed_wireField p.1.name _
  · exact fun f _ => isNamed_snakeCase f.wireName

theorem upperCamel_default_iff {name : String} (h : HasRegularLetters name) :
    upperCamel (({} : Naming).wirePrefix ++ upperCamel name) =
        ({} : Naming).wirePrefix ++ upperCamel name ↔
      KeepsCapitals (({} : Naming).wirePrefix ++ upperCamel name).toList := by
  have hprefix : ∀ c ∈ ['G', 'r', 'p', 'c'], IsCamelChar c := by
    simp only [List.forall_mem_cons]
    exact ⟨.inr ⟨by decide, 'g', by decide⟩, .inl (by decide), .inl (by decide), .inl (by decide),
      by simp⟩
  exact upperCamel_append_iff hprefix ⟨'G', rfl, by decide⟩ h

theorem snakeCase_default_iff {field : String}
    (h : ∀ c ∈ field.toList, isAlphanumeric c = true → IsLowerable c) (isTimestamp : Bool) :
    snakeCase (({} : Naming).wireField field isTimestamp) =
        ({} : Naming).wireField field isTimestamp ↔
      (isTimestamp = true → ∃ c ∈ field.toList, isAlphanumeric c = true) := by
  cases isTimestamp with
  | false => exact iff_of_true (snakeCase_snakeCase h) (by simp)
  | true =>
    have hprefix : ∀ c ∈ ['d', 't'], LowersTo c c := by
      simp only [List.forall_mem_cons]
      exact ⟨by decide, by decide, by simp⟩
    exact (snakeCase_prefixed_iff (by simp) hprefix h).trans (by simp)

/-- With the settings of a run that sets none: converters, adapters and proxies call the types and
fields of a stub by their names, but for the types with a capital that starts no word and for
timestamps without a letter or digit in their names. -/
theorem stubNames_iff (h : discover r {} = .ok g) :
    (∀ m ∈ g.messages.toList,
      (Schema.Block.ofMessage m).stub = m.wireName ↔ KeepsCapitals m.wireName.toList) ∧
    (∀ record ∈ g.records, HasRegularLetters record.shortName →
      ((Schema.Block.ofRecord {} record).stub = ({} : Naming).wireService record.shortName ↔
        KeepsCapitals (({} : Naming).wireService record.shortName).toList)) ∧
    ∀ m ∈ g.messages.toList,
      (m.fields.map Side.wire.ident = (Schema.Block.ofMessage m).stubMembers.map rawIdent ↔
        ∀ f ∈ m.fields, snakeCase f.wireName = f.wireName) ∧
      ∀ f ∈ m.fields, (∀ c ∈ f.name.toList, isAlphanumeric c = true → IsLowerable c) →
        (snakeCase f.wireName = f.wireName ↔
          (Message.isTimestamp f.domainType = true →
            ∃ c ∈ f.name.toList, isAlphanumeric c = true)) := by
  have hd := discovers_of_ok h
  refine ⟨?_, fun record _ => upperCamel_default_iff, ?_⟩
  · intro m hm
    obtain ⟨k, hk, hkm⟩ := hd.exists_model hm
    have hascii := isAscii_of_isIdentifier (hd.identifiers k hk)
    change upperCamel m.wireName = m.wireName ↔ _
    rw [hkm.wireName]
    exact upperCamel_default_iff (hasRegularLetters_of_isAscii (List.all_eq_true.mpr hascii))
  · intro m hm
    obtain ⟨k, -, hkm⟩ := hd.exists_model hm
    refine ⟨wireIdents_iff (Settings.sound_of_check Settings.check_default) hkm, ?_⟩
    intro f hf hletters
    obtain ⟨p, -, w, -, rfl⟩ := exists_left hkm.fields hf
    exact snakeCase_default_iff hletters _

end

def event : Model where
  name := "Event"
  fields := [{ name := "createdAt", type := .timestamp }]

theorem stubNames_event : ∃ g, discover (echoing event "EventLog" "EventApi") {} = .ok g ∧
    ∃ m ∈ g.messages.toList, ∃ record ∈ g.records,
      (Schema.Block.ofMessage m).stub = "GrpcEvent" ∧
      (Schema.Block.ofRecord {} record).stub = "GrpcEventLog" ∧
      (Schema.Block.ofMessage m).stubMembers.map rawIdent = ["dt_created_at"] := by
  obtain ⟨g, hg, hmessages, hrecords⟩ := exists_discover_echoing event "EventLog" "EventApi"
    (by decide) (by decide +kernel) (by decide) rfl (by decide) (by decide +kernel)
  obtain ⟨htypes, hservices, hfields⟩ := stubNames_iff hg
  have hm := hmessages ▸ List.mem_singleton_self _
  have hrecord := hrecords ▸ List.mem_singleton_self _
  refine ⟨g, hg, _, hm, _, hrecord, ?_, ?_, ?_⟩
  · exact ((htypes _ hm).mpr (by decide +kernel)).trans (by decide +kernel)
  · exact ((hservices _ hrecord (hasRegularLetters_of_isAscii (by decide))).mpr
      (by decide +kernel)).trans (by decide +kernel)
  · obtain ⟨hidents, hcases⟩ := hfields _ hm
    refine (hidents.mpr ?_).symm.trans (by decide +kernel)
    intro f hf
    have hname : f.name = "createdAt" := by
      rw [List.mem_singleton.mp hf]
      rfl
    have hletters : HasRegularLetters f.name := by
      rw [hname]
      exact hasRegularLetters_of_isAscii (by decide)
    refine (hcases f hf fun c hc halnum => (hletters c hc halnum).isLowerable).mpr fun _ => ?_
    rw [hname]
    exact ⟨'c', by decide, by decide⟩

/-- The stub is called by a name that it does not have. -/
theorem stubNames_ne_gridXY : ∃ g m,
    discover (echoing { name := "GridX_Y" } "Grid" "GridApi") {} = .ok g ∧ g.messages.toList = [m] ∧
      (Schema.Block.ofMessage m).stub = "GrpcGridXy" ∧ m.wireName = "GrpcGridXY" := by
  obtain ⟨g, hg, hmessages, -⟩ := exists_discover_echoing { name := "GridX_Y" } "Grid" "GridApi"
    (by decide) (by decide +kernel) (by decide) rfl (by decide) (by decide +kernel)
  exact ⟨g, _, hg, hmessages, by decide +kernel, by decide +kernel⟩

end RpcScaffold
