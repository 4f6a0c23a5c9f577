import RpcScaffold.Proofs.Generation.Stubs
import RpcScaffold.Proofs.Naming.Alphanumerics

/-!
# Identifiers that differ

The checks compare names in camel case, while methods and converter modules are named in snake case.
ASCII names that differ in camel case differ in snake case, so nothing else has to be compared.
-/

namespace RpcScaffold

open Text

/-! ## Names in two cases -/

def Text.IsAsciiText (s : String) : Prop := ∀ c ∈ s.toList, isAscii c = true

instance : DecidablePred IsAsciiText := fun s =>
  List.decidableBAll (fun c => isAscii c = true) s.toList

theorem upperCamel_eq_of_ascii {x y : String} (hx : IsAsciiText x) (hy : IsAsciiText y)
    (h : snakeCase x = snakeCase y) : upperCamel x = upperCamel y :=
  upperCamel_eq_of_snakeCase_eq (hasRegularLetters_of_ascii hx) (hasRegularLetters_of_ascii hy) h

/-- A check that can tell two names apart only by their camel case is enough for all that is written
of them, if that tells their snake case. -/
theorem nodup_written {checked written : String → String} {names : List String}
    (hascii : ∀ name ∈ names, IsAsciiText name)
    (hchecked : ∀ x y, upperCamel x = upperCamel y → checked x = checked y)
    (hwritten : ∀ x y, written x = written y → snakeCase x = snakeCase y)
    (h : (names.map checked).Nodup) : (names.map written).Nodup := by
  refine h.of_map.map_on ?_
  intro x hx y hy heq
  have hcamel := upperCamel_eq_of_ascii (hascii x hx) (hascii y hy) (hwritten x y heq)
  exact List.inj_on_of_nodup_map h hx hy (hchecked x y hcamel)

section

variable {names : List String} (hascii : ∀ name ∈ names, IsAsciiText name)
include hascii

/-- Escaping a reserved word takes it to no other name. -/
theorem nodup_methodIdents (h : (names.map Naming.rpcMethod).Nodup) :
    (names.map Naming.methodIdent).Nodup := by
  refine nodup_written hascii (fun x y hcamel => hcamel) ?_ h
  intro x y heq
  exact (rawIdent_eq_iff (isNamed_snakeCase x) (isNamed_snakeCase y)).mp heq

theorem nodup_modules {n : Naming} (h : (names.map n.wireMessage).Nodup) :
    (names.map Naming.converterModule).Nodup := by
  refine nodup_written hascii ?_ ?_ h
  · intro x y hcamel
    rw [Naming.wireMessage, hcamel, Naming.wireMessage]
  · intro x y heq
    exact (String.append_left_inj _).mp heq

end

/-! ## Accepted registries -/

/-- All methods of the service have ASCII names. -/
def Service.HasAsciiMethods (s : Service) : Prop :=
  ∀ i ∈ s.interfaces, ∀ m ∈ i.methods, IsAsciiText m.name

instance : DecidablePred Service.HasAsciiMethods := fun s =>
  inferInstanceAs (Decidable (∀ i ∈ s.interfaces, ∀ m ∈ i.methods, IsAsciiText m.name))

theorem IsRecord.nodup_methodIdents {r : Registry} {n : Naming} {s : Service}
    {record : ServiceRecord} (h : IsRecord r n s record) (hascii : s.HasAsciiMethods) :
    (record.methods.map fun c => Naming.methodIdent c.name).Nodup := by
  obtain ⟨i, hi, -, hcontracts, hrpc⟩ := h.interface
  have hnames : ∀ name ∈ i.methods.map (·.name), IsAsciiText name :=
    List.forall_mem_map.mpr (hascii i (List.mem_of_find?_eq_some hi))
  rw [← Function.comp_def, ← List.map_map] at hrpc
  rw [map_contracts_eq Naming.methodIdent hcontracts, ← Function.comp_def, ← List.map_map]
  exact RpcScaffold.nodup_methodIdents hnames hrpc

/-- The names of models are identifiers, so they are ASCII. -/
theorem Discovers.nodup_modules {r : Registry} {n : Naming} {g : ServiceGraph}
    (h : Discovers r n g) : (r.names.map Naming.converterModule).Nodup := by
  have hascii : ∀ name ∈ r.names, IsAsciiText name :=
    List.forall_mem_map.mpr fun m hm => isAscii_of_isIdentifier (h.identifiers m hm)
  exact RpcScaffold.nodup_modules hascii h.nodup_wireMessages

/-- ASCII names with one snake case have one camel case. So names whose rpc names differ have
different identifiers, and names whose wire messages differ have different converter modules. In an
accepted registry the methods of a service and all models differ in that way. -/
theorem snakeCase_distinguishes :
    (∀ x y : String, IsAsciiText x → IsAsciiText y → snakeCase x = snakeCase y →
      upperCamel x = upperCamel y) ∧
    (∀ names : List String, (∀ name ∈ names, IsAsciiText name) →
      ((names.map Naming.rpcMethod).Nodup → (names.map Naming.methodIdent).Nodup) ∧
      ∀ n : Naming, (names.map n.wireMessage).Nodup → (names.map Naming.converterModule).Nodup) ∧
    ∀ (r : Registry) (n : Naming) (g : ServiceGraph), discover r n = .ok g →
      List.Forall₂ (fun s record => record.serviceName = s.name ∧ (s.HasAsciiMethods →
        (record.methods.map fun c => Naming.methodIdent c.name).Nodup))
        r.markedServices g.records ∧
      (r.names.map Naming.converterModule).Nodup := by
  refine ⟨fun x y => upperCamel_eq_of_ascii, ?_, ?_⟩
  · intro names hascii
    exact ⟨nodup_methodIdents hascii, fun n => nodup_modules hascii⟩
  · intro r n g h
    have hd := discovers_of_ok h
    exact ⟨hd.records.imp fun s record hr => ⟨hr.serviceName, hr.nodup_methodIdents⟩,
      hd.nodup_modules⟩

/-- The rpc names `GetAB` and `GetAb` pass the check. -/
theorem snakeCase_distinguishes_offering :
    upperCamel "GetPerson" = upperCamel "get_person" ∧
    (["get_a_b", "get_ab"].map Naming.methodIdent).Nodup ∧
    (["get_a_b", "get_ab"].map Naming.converterModule).Nodup ∧
    ∃ g, discover (offering ["get_a_b", "get_ab"]) {} = .ok g ∧
      (∃ record ∈ g.records, record.methods.map (·.name) = ["get_a_b", "get_ab"] ∧
        (record.methods.map fun c => Naming.methodIdent c.name).Nodup) ∧
      ((offering ["get_a_b", "get_ab"]).names.map Naming.converterModule).Nodup := by
  have hrpc : (["get_a_b", "get_ab"].map Naming.rpcMethod).Nodup := by decide +kernel
  have hascii : ∀ name ∈ ["get_a_b", "get_ab"], IsAsciiText name := by decide +kernel
  have hservices : ∀ s ∈ (offering ["get_a_b", "get_ab"]).markedServices, s.HasAsciiMethods := by
    decide +kernel
  obtain ⟨hcamel, hnames, hgraph⟩ := snakeCase_distinguishes
  obtain ⟨hidents, hmodules⟩ := hnames ["get_a_b", "get_ab"] hascii
  obtain ⟨g, hg, record, hrecord, hmethods⟩ := exists_discover_offering hrpc
  obtain ⟨hrecords, hconverters⟩ := hgraph _ {} g hg
  obtain ⟨s, hs, -, hdistinct⟩ := exists_left hrecords hrecord
  exact ⟨hcamel _ _ (by decide +kernel) (by decide +kernel) (by decide +kernel), hidents hrpc,
    hmodules {} (by decide +kernel), g, hg, ⟨record, hrecord, by rw [hmethods]; rfl,
      hdistinct (hservices s hs)⟩, hconverters⟩

end RpcScaffold
