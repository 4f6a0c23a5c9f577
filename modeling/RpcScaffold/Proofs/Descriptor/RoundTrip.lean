import Mathlib.Data.List.Nodup
import RpcScaffold.Proofs.DomainType.RoundTrip
import RpcScaffold.Proofs.Json.Elision

/-!
# Descriptor files are read back

A descriptor is read back from its text, also when keys are left out at their defaults.
-/

namespace RpcScaffold

open Json

/-! ## Types that occur -/

def Returns.types : Returns → List DomainType
  | .async t | .stream t | .blocking t => [t]
  | .unit => []

def Method.types (m : Method) : List DomainType := m.params ++ m.returns.types

def Registry.types (r : Registry) : List DomainType :=
  r.models.flatMap (fun m => m.fields.map (·.type)) ++
    r.services.flatMap fun s => s.interfaces.flatMap fun i => i.methods.flatMap Method.types

/-- Some expression denotes the type. -/
def DomainType.IsDenoted (t : DomainType) : Prop := ∃ expression, parse expression = .ok t

/-! ## Defaults -/

/-- What a missing key stands for. Marks are missing on models, but present on services and
interfaces. -/
def Descriptor.default? : List String → Option Json
  | ["version"] => some (.string currentVersion)
  | ["config"] => some .null
  | "config" :: path => ({} : Settings).encode.at? path
  | ["models"] | ["models", "fields"] | ["services"] | ["services", "models"]
  | ["services", "interfaces"] | ["services", "interfaces", "methods"]
  | ["services", "interfaces", "methods", "params"] => some (.array [])
  | ["models", "marked"] | ["models", "fields", "nullable"] => some (.bool false)
  | ["services", "marked"] | ["services", "interfaces", "marked"] => some (.bool true)
  | _ => none

open Descriptor

/-- A list that is left out is empty. -/
theorem eq_nil_of_default {α : Type} {encode : α → Json} {as : List α}
    (h : some (Json.array []) = some (.array (as.map encode))) : [] = as := by
  have hnil := Json.array.inj (Option.some.inj h)
  exact (List.map_eq_nil_iff.mp hnil.symm).symm

/-! ## Models -/

theorem DomainType.decode_of_elided {t : DomainType} (ht : t.IsDenoted) {place : List String}
    {j : Json} (hj : Elided default? place t.encode j) : DomainType.decode j.sorted = .ok t := by
  obtain ⟨expression, ht⟩ := ht
  rw [hj.eq_of_string]
  change (parse t.print).mapError _ = .ok t
  rw [parse_print ht]
  rfl

def Model.Field.slots (f : Model.Field) : List (Slot Model.Field) := [
  ⟨"name", .string f.name, fun d => d.name = f.name⟩,
  ⟨"type", f.type.encode, fun d => d.type = f.type⟩,
  ⟨"nullable", .bool f.nullable, fun d => d.nullable = f.nullable⟩]

theorem Model.Field.builds {f : Model.Field} (ht : f.type.IsDenoted) :
    Model.Field.record.Builds default? ["models", "fields"] f.slots f where
  keys := rfl
  required := by decide
  set := by
    simp only [slots, List.forall_mem_cons]
    refine ⟨?_, ?_, ?_, by simp⟩ <;> intro j hj d
    · rw [hj.eq_of_string]
      exact ⟨{ d with name := f.name }, rfl, by simp⟩
    · have htype := DomainType.decode_of_elided ht hj
      exact ⟨{ d with type := f.type }, map_eq_ok.mpr ⟨_, htype, rfl⟩, by simp⟩
    · rw [hj.eq_of_bool]
      exact ⟨{ d with nullable := f.nullable }, rfl, by simp⟩
  missing := by
    simp only [slots, List.forall_mem_cons]
    exact ⟨nofun,
      nofun,
      fun h => ⟨by decide, Json.bool.inj (Option.some.inj h)⟩, by simp⟩
  whole := by
    intro d h
    cases d
    cases f
    simpa [slots] using h

def Model.slots (m : Model) : List (Slot Model) := [
  ⟨"name", .string m.name, fun d => d.name = m.name⟩,
  ⟨"marked", .bool m.marked, fun d => d.marked = m.marked⟩,
  ⟨"fields", .array (m.fields.map Model.Field.encode), fun d => d.fields = m.fields⟩]

theorem Model.builds {m : Model} (ht : ∀ f ∈ m.fields, f.type.IsDenoted) :
    (Model.record .flattened).Builds default? ["models"] m.slots m where
  keys := rfl
  required := by decide
  set := by
    simp only [slots, List.forall_mem_cons]
    refine ⟨?_, ?_, ?_, by simp⟩ <;> intro j hj d
    · rw [hj.eq_of_string]
      exact ⟨{ d with name := m.name }, rfl, by simp⟩
    · rw [hj.eq_of_bool]
      exact ⟨{ d with marked := m.marked }, rfl, by simp⟩
    · have hfields := decodeList_of_elided
        (fun f hf j hj => (Model.Field.builds (ht f hf)).decode hj .flattened) hj
      exact ⟨{ d with fields := m.fields }, map_eq_ok.mpr ⟨_, hfields, rfl⟩, by simp⟩
  missing := by
    simp only [slots, List.forall_mem_cons]
    exact ⟨nofun,
      fun h => ⟨by decide, Json.bool.inj (Option.some.inj h)⟩,
      fun h => ⟨by decide, eq_nil_of_default h⟩, by simp⟩
  whole := by
    intro d h
    cases d
    cases m
    simpa [slots] using h

/-! ## Services -/

theorem Returns.decode_of_elided {r : Returns} (ht : ∀ t ∈ r.types, t.IsDenoted) {j : Json}
    (hj : Elided default? ["services", "interfaces", "methods", "returns"] r.encode j) :
    Returns.decode .flattened j.sorted = .ok r := by
  have hdecode : ∀ {t : DomainType} {place : List String} {j : Json}, t ∈ r.types →
      Elided default? place t.encode j → DomainType.decode j.sorted = .ok t :=
    fun h hj => DomainType.decode_of_elided (ht _ h) hj
  cases r with
  | async t =>
    obtain ⟨payload, rfl, hpayload⟩ := hj.exists_single rfl
    exact map_eq_ok.mpr ⟨_, hdecode List.mem_cons_self hpayload, rfl⟩
  | stream t =>
    obtain ⟨payload, rfl, hpayload⟩ := hj.exists_single rfl
    exact map_eq_ok.mpr ⟨_, hdecode List.mem_cons_self hpayload, rfl⟩
  | blocking t =>
    obtain ⟨payload, rfl, hpayload⟩ := hj.exists_single rfl
    exact map_eq_ok.mpr ⟨_, hdecode List.mem_cons_self hpayload, rfl⟩
  | unit =>
    rw [hj.eq_of_string]
    rfl

def Method.slots (m : Method) : List (Slot Method) := [
  ⟨"name", .string m.name, fun d => d.name = m.name⟩,
  ⟨"params", .array (m.params.map DomainType.encode), fun d => d.params = m.params⟩,
  ⟨"returns", m.returns.encode, fun d => d.returns = m.returns⟩]

theorem Method.builds {m : Method} (ht : ∀ t ∈ m.types, t.IsDenoted) :
    (Method.record .flattened).Builds default? ["services", "interfaces", "methods"] m.slots m where
  keys := rfl
  required := by decide
  set := by
    simp only [types, List.forall_mem_append] at ht
    simp only [slots, List.forall_mem_cons]
    refine ⟨?_, ?_, ?_, by simp⟩ <;> intro j hj d
    · rw [hj.eq_of_string]
      exact ⟨{ d with name := m.name }, rfl, by simp⟩
    · have hparams := decodeList_of_elided
        (fun t h j hj => DomainType.decode_of_elided (ht.1 t h) hj) hj
      exact ⟨{ d with params := m.params }, map_eq_ok.mpr ⟨_, hparams, rfl⟩, by simp⟩
    · have hreturns := Returns.decode_of_elided ht.2 hj
      exact ⟨{ d with returns := m.returns }, map_eq_ok.mpr ⟨_, hreturns, rfl⟩, by simp⟩
  missing := by
    simp only [slots, List.forall_mem_cons]
    exact ⟨nofun,
      fun h => ⟨by decide, eq_nil_of_default h⟩,
      nofun, by simp⟩
  whole := by
    intro d h
    cases d
    cases m
    simpa [slots] using h

def Interface.slots (i : Interface) : List (Slot Interface) := [
  ⟨"name", .string i.name, fun d => d.name = i.name⟩,
  ⟨"marked", .bool i.marked, fun d => d.marked = i.marked⟩,
  ⟨"methods", .array (i.methods.map Method.encode), fun d => d.methods = i.methods⟩]

theorem Interface.builds {i : Interface} (ht : ∀ m ∈ i.methods, ∀ t ∈ m.types, t.IsDenoted) :
    (Interface.record .flattened).Builds default? ["services", "interfaces"] i.slots i where
  keys := rfl
  required := by decide
  set := by
    simp only [slots, List.forall_mem_cons]
    refine ⟨?_, ?_, ?_, by simp⟩ <;> intro j hj d
    · rw [hj.eq_of_string]
      exact ⟨{ d with name := i.name }, rfl, by simp⟩
    · rw [hj.eq_of_bool]
      exact ⟨{ d with marked := i.marked }, rfl, by simp⟩
    · have hmethods := decodeList_of_elided
        (fun m h j hj => (Method.builds (ht m h)).decode hj .flattened) hj
      exact ⟨{ d with methods := i.methods }, map_eq_ok.mpr ⟨_, hmethods, rfl⟩, by simp⟩
  missing := by
    simp only [slots, List.forall_mem_cons]
    exact ⟨nofun,
      fun h => ⟨by decide, Json.bool.inj (Option.some.inj h)⟩,
      fun h => ⟨by decide, eq_nil_of_default h⟩, by simp⟩
  whole := by
    intro d h
    cases d
    cases i
    simpa [slots] using h

def Service.slots (s : Service) : List (Slot Service) := [
  ⟨"name", .string s.name, fun d => d.name = s.name⟩,
  ⟨"marked", .bool s.marked, fun d => d.marked = s.marked⟩,
  ⟨"models", .array (s.models.map .string), fun d => d.models = s.models⟩,
  ⟨"interfaces", .array (s.interfaces.map Interface.encode), fun d => d.interfaces = s.interfaces⟩]

theorem Service.builds {s : Service}
    (ht : ∀ i ∈ s.interfaces, ∀ m ∈ i.methods, ∀ t ∈ m.types, t.IsDenoted) :
    (Service.record .flattened).Builds default? ["services"] s.slots s where
  keys := rfl
  required := by decide
  set := by
    simp only [slots, List.forall_mem_cons]
    refine ⟨?_, ?_, ?_, ?_, by simp⟩ <;> intro j hj d
    · rw [hj.eq_of_string]
      exact ⟨{ d with name := s.name }, rfl, by simp⟩
    · rw [hj.eq_of_bool]
      exact ⟨{ d with marked := s.marked }, rfl, by simp⟩
    · have hmodels : decodeList decodeString j.sorted = .ok s.models := by
        apply decodeList_of_elided _ hj
        intro name _ j hj
        rw [hj.eq_of_string]
        rfl
      exact ⟨{ d with models := s.models }, map_eq_ok.mpr ⟨_, hmodels, rfl⟩, by simp⟩
    · have hinterfaces := decodeList_of_elided
        (fun i h j hj => (Interface.builds (ht i h)).decode hj .flattened) hj
      exact ⟨{ d with interfaces := s.interfaces }, map_eq_ok.mpr ⟨_, hinterfaces, rfl⟩, by simp⟩
  missing := by
    simp only [slots, List.forall_mem_cons]
    exact ⟨nofun,
      fun h => ⟨by decide, Json.bool.inj (Option.some.inj h)⟩,
      fun h => ⟨by decide, eq_nil_of_default h⟩,
      fun h => ⟨by decide, eq_nil_of_default h⟩, by simp⟩
  whole := by
    intro d h
    cases d
    cases s
    simpa [slots] using h

/-! ## Settings -/

def Naming.slots (n : Naming) : List (Slot Naming) := [
  ⟨"wire_prefix", .string n.wirePrefix, fun d => d.wirePrefix = n.wirePrefix⟩,
  ⟨"service_suffix", .string n.serviceSuffix, fun d => d.serviceSuffix = n.serviceSuffix⟩,
  ⟨"timestamp_prefix", .string n.timestampPrefix, fun d => d.timestampPrefix = n.timestampPrefix⟩]

theorem Naming.builds (n : Naming) :
    Naming.record.Builds default? ["config", "naming"] n.slots n where
  keys := rfl
  required := by decide
  set := by
    simp only [slots, List.forall_mem_cons]
    refine ⟨?_, ?_, ?_, by simp⟩ <;> intro j hj d <;> rw [hj.eq_of_string]
    · exact ⟨{ d with wirePrefix := n.wirePrefix }, rfl, by simp⟩
    · exact ⟨{ d with serviceSuffix := n.serviceSuffix }, rfl, by simp⟩
    · exact ⟨{ d with timestampPrefix := n.timestampPrefix }, rfl, by simp⟩
  missing := by
    simp only [slots, List.forall_mem_cons]
    refine ⟨?_, ?_, ?_, by simp⟩ <;>
      exact fun h => ⟨List.not_mem_nil, Json.string.inj (Option.some.inj h)⟩
  whole := by
    intro d h
    cases d
    cases n
    simpa [slots] using h

def CratePaths.slots (c : CratePaths) : List (Slot CratePaths) := [
  ⟨"shared_crate", .string c.sharedCrate, fun d => d.sharedCrate = c.sharedCrate⟩,
  ⟨"models_module", .string c.modelsModule, fun d => d.modelsModule = c.modelsModule⟩,
  ⟨"wire_module", .string c.wireModule, fun d => d.wireModule = c.wireModule⟩,
  ⟨"converters_module", .string c.convertersModule,
    fun d => d.convertersModule = c.convertersModule⟩,
  ⟨"services_module", .string c.servicesModule, fun d => d.servicesModule = c.servicesModule⟩]

theorem CratePaths.builds (c : CratePaths) :
    CratePaths.record.Builds default? ["config", "crates"] c.slots c where
  keys := rfl
  required := by decide
  set := by
    simp only [slots, List.forall_mem_cons]
    refine ⟨?_, ?_, ?_, ?_, ?_, by simp⟩ <;> intro j hj d <;> rw [hj.eq_of_string]
    · exact ⟨{ d with sharedCrate := c.sharedCrate }, rfl, by simp⟩
    · exact ⟨{ d with modelsModule := c.modelsModule }, rfl, by simp⟩
    · exact ⟨{ d with wireModule := c.wireModule }, rfl, by simp⟩
    · exact ⟨{ d with convertersModule := c.convertersModule }, rfl, by simp⟩
    · exact ⟨{ d with servicesModule := c.servicesModule }, rfl, by simp⟩
  missing := by
    simp only [slots, List.forall_mem_cons]
    refine ⟨?_, ?_, ?_, ?_, ?_, by simp⟩ <;>
      exact fun h => ⟨List.not_mem_nil, Json.string.inj (Option.some.inj h)⟩
  whole := by
    intro d h
    cases d
    cases c
    simpa [slots] using h

def Layout.slots (l : Layout) : List (Slot Layout) := [
  ⟨"schema_file", .string l.schemaFile, fun d => d.schemaFile = l.schemaFile⟩,
  ⟨"converters_dir", .string l.convertersDir, fun d => d.convertersDir = l.convertersDir⟩,
  ⟨"models_dir", .string l.modelsDir, fun d => d.modelsDir = l.modelsDir⟩,
  ⟨"adapters_dir", .string l.adaptersDir, fun d => d.adaptersDir = l.adaptersDir⟩,
  ⟨"services_dir", .string l.servicesDir, fun d => d.servicesDir = l.servicesDir⟩,
  ⟨"proxies_dir", .string l.proxiesDir, fun d => d.proxiesDir = l.proxiesDir⟩,
  ⟨"instructions_file", .string l.instructionsFile,
    fun d => d.instructionsFile = l.instructionsFile⟩,
  ⟨"manifest_file", .string l.manifestFile, fun d => d.manifestFile = l.manifestFile⟩]

theorem Layout.builds (l : Layout) :
    Layout.record.Builds default? ["config", "layout"] l.slots l where
  keys := rfl
  required := by decide
  set := by
    simp only [slots, List.forall_mem_cons]
    refine ⟨?_, ?_, ?_, ?_, ?_, ?_, ?_, ?_, by simp⟩ <;> intro j hj d <;> rw [hj.eq_of_string]
    · exact ⟨{ d with schemaFile := l.schemaFile }, rfl, by simp⟩
    · exact ⟨{ d with convertersDir := l.convertersDir }, rfl, by simp⟩
    · exact ⟨{ d with modelsDir := l.modelsDir }, rfl, by simp⟩
    · exact ⟨{ d with adaptersDir := l.adaptersDir }, rfl, by simp⟩
    · exact ⟨{ d with servicesDir := l.servicesDir }, rfl, by simp⟩
    · exact ⟨{ d with proxiesDir := l.proxiesDir }, rfl, by simp⟩
    · exact ⟨{ d with instructionsFile := l.instructionsFile }, rfl, by simp⟩
    · exact ⟨{ d with manifestFile := l.manifestFile }, rfl, by simp⟩
  missing := by
    simp only [slots, List.forall_mem_cons]
    refine ⟨?_, ?_, ?_, ?_, ?_, ?_, ?_, ?_, by simp⟩ <;>
      exact fun h => ⟨List.not_mem_nil, Json.string.inj (Option.some.inj h)⟩
  whole := by
    intro d h
    cases d
    cases l
    simpa [slots] using h

def Settings.slots (s : Settings) : List (Slot Settings) := [
  ⟨"namespace", .string s.package, fun d => d.package = s.package⟩,
  ⟨"naming", s.naming.encode, fun d => d.naming = s.naming⟩,
  ⟨"crates", s.crates.encode, fun d => d.crates = s.crates⟩,
  ⟨"layout", s.layout.encode, fun d => d.layout = s.layout⟩]

theorem Settings.builds (s : Settings) :
    Settings.record.Builds default? ["config"] s.slots s where
  keys := rfl
  required := by decide
  set := by
    simp only [slots, List.forall_mem_cons]
    refine ⟨?_, ?_, ?_, ?_, by simp⟩ <;> intro j hj d
    · rw [hj.eq_of_string]
      exact ⟨{ d with package := s.package }, rfl, by simp⟩
    · have hnaming := s.naming.builds.decode hj .direct
      exact ⟨{ d with naming := s.naming }, map_eq_ok.mpr ⟨_, hnaming, rfl⟩, by simp⟩
    · have hcrates := s.crates.builds.decode hj .direct
      exact ⟨{ d with crates := s.crates }, map_eq_ok.mpr ⟨_, hcrates, rfl⟩, by simp⟩
    · have hlayout := s.layout.builds.decode hj .direct
      exact ⟨{ d with layout := s.layout }, map_eq_ok.mpr ⟨_, hlayout, rfl⟩, by simp⟩
  missing := by
    have hnaming : ({} : Naming).encode = s.naming.encode → {} = s.naming := by
      cases s.naming
      simp [Naming.encode]
    have hcrates : ({} : CratePaths).encode = s.crates.encode → {} = s.crates := by
      cases s.crates
      simp [CratePaths.encode]
    have hlayout : ({} : Layout).encode = s.layout.encode → {} = s.layout := by
      cases s.layout
      simp [Layout.encode]
    simp only [slots, List.forall_mem_cons]
    exact ⟨fun h => ⟨List.not_mem_nil, Json.string.inj (Option.some.inj h)⟩,
      fun h => ⟨List.not_mem_nil, hnaming (Option.some.inj h)⟩,
      fun h => ⟨List.not_mem_nil, hcrates (Option.some.inj h)⟩,
      fun h => ⟨List.not_mem_nil, hlayout (Option.some.inj h)⟩, by simp⟩
  whole := by
    intro d h
    cases d
    cases s
    simpa [slots] using h

theorem decodeOption_of_elided {settings : Option Settings} {j : Json}
    (hj : Elided default? ["config"] ((settings.map Settings.encode).getD .null) j) :
    decodeOption Settings.decode j.sorted = .ok settings := by
  cases settings with
  | none =>
    rw [hj.eq_of_null]
    rfl
  | some s =>
    have hsettings := s.builds.decode hj .direct
    obtain ⟨members, rfl, -⟩ := hj.exists_members
    rw [sorted] at hsettings ⊢
    exact map_eq_ok.mpr ⟨s, hsettings, rfl⟩

/-! ## Nesting -/

theorem Model.within (m : Model) (depth : Nat) : Within (depth + 3) m.encode := by
  refine .object ?_
  simp only [List.forall_mem_cons]
  refine ⟨.string _, .bool _, .array ?_, by simp⟩
  rw [List.forall_mem_map]
  intro f _
  refine .object ?_
  simp only [List.forall_mem_cons]
  exact ⟨.string _, .string _, .bool _, by simp⟩

theorem Method.within (m : Method) (depth : Nat) : Within (depth + 2) m.encode := by
  have hreturns : Within (depth + 1) m.returns.encode := by
    cases m.returns with
    | async t => exact .object (List.forall_mem_singleton.mpr (.string _))
    | stream t => exact .object (List.forall_mem_singleton.mpr (.string _))
    | blocking t => exact .object (List.forall_mem_singleton.mpr (.string _))
    | unit => exact .string _
  refine .object ?_
  simp only [List.forall_mem_cons]
  refine ⟨.string _, .array ?_, hreturns, by simp⟩
  rw [List.forall_mem_map]
  exact fun t _ => .string _

theorem Service.within (s : Service) (depth : Nat) : Within (depth + 6) s.encode := by
  refine .object ?_
  simp only [List.forall_mem_cons]
  refine ⟨.string _, .bool _, .array ?_, .array ?_, by simp⟩
  · rw [List.forall_mem_map]
    exact fun name _ => .string _
  · rw [List.forall_mem_map]
    intro i _
    refine .object ?_
    simp only [List.forall_mem_cons]
    refine ⟨.string _, .bool _, .array ?_, by simp⟩
    rw [List.forall_mem_map]
    exact fun m _ => m.within depth

theorem Settings.within (s : Settings) (depth : Nat) : Within (depth + 2) s.encode := by
  refine .object ?_
  simp only [List.forall_mem_cons]
  refine ⟨.string _, .object ?_, .object ?_, .object ?_, by simp⟩ <;>
    simp [Within.string]

theorem Descriptor.within (d : Descriptor) : Within 8 d.encode := by
  have hconfig : Within 7 ((d.settings.map Settings.encode).getD .null) := by
    cases d.settings with
    | none => exact .null
    | some s => exact s.within 5
  refine .object ?_
  simp only [Registry.members, List.cons_append, List.nil_append, List.forall_mem_cons]
  refine ⟨.string _, hconfig, .array ?_, .array ?_, by simp⟩
  · rw [List.forall_mem_map]
    exact fun m _ => m.within 3
  · rw [List.forall_mem_map]
    exact fun s _ => s.within 0

/-! ## Descriptors -/

namespace Descriptor

def fields (d : Descriptor) : List (String × Json) :=
  ("version", .string d.version) ::
    ("config", (d.settings.map Settings.encode).getD .null) :: d.registry.members

/-- A member that is there decodes, and one that is missing has its default. -/
theorem member_of_elided {α : Type} {fields members : List (String × Json)}
    (hnodup : (fields.map Prod.fst).Nodup)
    (hj : Elided default? [] (.object fields) (.object members))
    {key : String} {v : Json} (hmem : (key, v) ∈ fields) {item : Decoder α} {missing a : α}
    (hitem : ∀ j, Elided default? [key] v j → item j.sorted = .ok a)
    (hmissing : default? [key] = some v → missing = a) :
    member (sortMembers (sortedMembers members)) key missing item = .ok a := by
  obtain ⟨members', heq, hleft, hgone⟩ := hj.exists_members
  cases heq
  cases hlookup : (sortMembers (sortedMembers members)).lookup key with
  | some w =>
    obtain ⟨_, _, heq, -⟩ := List.lookup_eq_some_iff.mp hlookup
    obtain ⟨m', hm', hpair⟩ :=
      exists_of_mem_sorted (heq ▸ List.mem_append_right _ List.mem_cons_self)
    cases hpair
    obtain ⟨m, hm, hkey, helided⟩ := hleft m' hm'
    have hsame : m = (m'.1, v) := List.inj_on_of_nodup_map hnodup hm hmem hkey
    subst hsame
    rw [member, hlookup]
    exact hitem _ helided
  | none =>
    have hnot : key ∉ members.map Prod.fst := by
      intro hkey
      obtain ⟨m, hm, rfl⟩ := List.mem_map.mp (mem_keys_sorted.mpr hkey)
      simpa using List.lookup_eq_none_iff.mp hlookup m hm
    rw [member, hlookup]
    exact congrArg _ (hmissing ((hgone _ hmem).resolve_left hnot))

theorem decode_of_elided {d : Descriptor} (ht : ∀ t ∈ d.registry.types, t.IsDenoted)
    {members : List (String × Json)} (hj : Elided default? [] d.encode (.object members)) :
    decode (sortMembers (sortedMembers members)) = .ok d := by
  have hnodup : (d.fields.map Prod.fst).Nodup := by
    change ["version", "config", "models", "services"].Nodup
    decide
  simp only [Registry.types, List.forall_mem_append, List.forall_mem_flatMap, List.forall_mem_map]
    at ht
  have hversion : member (sortMembers (sortedMembers members)) "version"
      currentVersion decodeString = .ok d.version := by
    refine member_of_elided hnodup hj List.mem_cons_self ?_ ?_
    · intro j hj
      rw [hj.eq_of_string]
      rfl
    · exact fun h => Json.string.inj (Option.some.inj h)
  have hsettings : member (sortMembers (sortedMembers members)) "config" none
      (decodeOption Settings.decode) = .ok d.settings := by
    refine member_of_elided hnodup hj (List.mem_cons_of_mem _ List.mem_cons_self) ?_ ?_
    · exact fun j hj => decodeOption_of_elided hj
    · cases d.settings with
      | none => exact fun _ => rfl
      | some s => nofun
  have hmodels : member (sortMembers (sortedMembers members)) "models" []
      (decodeList (Model.decode .flattened)) = .ok d.registry.models := by
    refine member_of_elided hnodup hj
      (List.mem_cons_of_mem _ (List.mem_cons_of_mem _ List.mem_cons_self)) ?_ ?_
    · intro j hj
      exact decodeList_of_elided (fun m h j hj => (Model.builds (ht.1 m h)).decode hj .flattened) hj
    · exact eq_nil_of_default
  have hservices : member (sortMembers (sortedMembers members)) "services" []
      (decodeList (Service.decode .flattened)) = .ok d.registry.services := by
    refine member_of_elided hnodup hj (List.mem_cons_of_mem _ (List.mem_cons_of_mem _
      (List.mem_cons_of_mem _ List.mem_cons_self))) ?_ ?_
    · intro j hj
      exact decodeList_of_elided
        (fun s h j hj => (Service.builds (ht.2 s h)).decode hj .flattened) hj
    · exact eq_nil_of_default
  simp only [decode, hsettings, hversion, hmodels, hservices]
  rfl

/-- The same settings, models and services come back, in the same order. -/
theorem parse_of_elided {d : Descriptor} (hversion : d.version = currentVersion)
    (htypes : ∀ t ∈ d.registry.types, t.IsDenoted) {j : Json} (hj : Elided default? [] d.encode j)
    {limit : Nat} (hlimit : (bytes j).length ≤ limit) : parse (bytes j) limit = .ok d := by
  obtain ⟨members, rfl, -⟩ := hj.exists_members
  have hparse : Json.parse (bytes (.object members)) = .ok (Json.object members).sorted :=
    parse_bytes (hj.within d.within) (by decide)
  have hread : readJson (bytes (.object members)) limit = .ok (Json.object members).sorted := by
    rw [readJson, if_neg (Nat.not_lt.mpr hlimit), hparse]
    rfl
  rw [parse, hread, sorted]
  simp only [bind, Except.bind, decode_of_elided htypes hj, Except.mapError, hversion, if_true]
  rfl

def people : Descriptor where
  settings := some { package := "people_demo" }
  registry := {
    models := [{ name := "Person", marked := true, fields := [{ name := "id", type := .int32 }] }]
    services := [{
      name := "PeopleService"
      interfaces := [{ name := "PeopleApi", methods := [
        { name := "echo", params := [.named "Person"], returns := .async (.named "Person") }] }] }] }

/-- No version, no naming, crates or layout, no marks on the service and its interface, and the model
first by its fields. -/
def peopleElided : Json := .object [
  ("config", .object [("namespace", .string "people_demo")]),
  ("models", .array [.object [
    ("fields", .array [.object [("name", .string "id"), ("type", .string "int32")]]),
    ("name", .string "Person"), ("marked", .bool true)]]),
  ("services", .array [.object [
    ("name", .string "PeopleService"),
    ("interfaces", .array [.object [
      ("name", .string "PeopleApi"),
      ("methods", .array [.object [
        ("name", .string "echo"),
        ("params", .array [.string "Person"]),
        ("returns", .object [("async", .string "Person")])]])]])]])]

theorem elided_people : Elided default? [] people.encode peopleElided := by
  refine .drop rfl (.keep ?_ (.keep ?_ (.keep ?_ (.same _))))
  · exact .keep (.same _) (.drop rfl (.drop rfl (.drop rfl (.same _))))
  · have hfirst : ∀ name marked fields : String × Json,
        [name, marked, fields].Perm [fields, name, marked] :=
      fun name marked fields => (List.perm_append_singleton fields [name, marked])
    refine .item (.reorder (hfirst _ _ _) (.keep ?_ (.same _))) (.same _)
    exact .item (.keep (.same _) (.keep (.same _) (.drop rfl (.same _)))) (.same _)
  · refine .item (.keep (.same _) (.drop rfl (.drop rfl (.keep ?_ (.same _))))) (.same _)
    exact .item (.keep (.same _) (.drop rfl (.same _))) (.same _)

theorem parse_of_elided_people : parse (bytes peopleElided) defaultLimit = .ok people := by
  refine parse_of_elided rfl ?_ elided_people ?_
  · have hid : DomainType.IsDenoted .int32 :=
      ⟨_, (DomainType.Proper.word (t := .int32) (by decide) rfl).parseChars⟩
    have hperson : DomainType.IsDenoted (.named "Person") :=
      ⟨_, (DomainType.Proper.word (t := .named "Person") (by decide) rfl).parseChars⟩
    change ∀ t ∈ [DomainType.int32, .named "Person", .named "Person"], t.IsDenoted
    simp [hid, hperson]
  · rw [bytes_eq]
    decide +kernel

end Descriptor

end RpcScaffold
