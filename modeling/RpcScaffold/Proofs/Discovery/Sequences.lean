import RpcScaffold.Proofs.Discovery.Acceptance
import RpcScaffold.Proofs.DomainType.Sequences

/-!
# Discovery and the two forms of a sequence

The graph of a registry holds the declared types. With all sequences written as lists it is the
graph of the registry with all sequences written as lists.
-/

namespace RpcScaffold

/-! ## Registries and graphs in one form -/

def Model.Field.asLists (f : Model.Field) : Model.Field := { f with type := f.type.asLists }

def Model.asLists (m : Model) : Model := { m with fields := m.fields.map Model.Field.asLists }

def Registry.asLists (r : Registry) : Registry := { r with models := r.models.map Model.asLists }

def Catalog.asLists (c : Catalog) : Catalog :=
  { c with messages := c.messages.map Message.asLists }

def ServiceGraph.asLists (g : ServiceGraph) : ServiceGraph :=
  { g with messages := g.messages.asLists }

@[simp] theorem Model.Field.name_asLists (f : Model.Field) : f.asLists.name = f.name := rfl

@[simp] theorem Model.Field.type_asLists (f : Model.Field) : f.asLists.type = f.type.asLists := rfl

@[simp] theorem Model.name_asLists (m : Model) : m.asLists.name = m.name := rfl

@[simp] theorem Model.fields_asLists (m : Model) :
    m.asLists.fields = m.fields.map Model.Field.asLists := rfl

variable {r : Registry} {n : Naming}

/-! ## Declared names -/

theorem Registry.model?_asLists (name : String) :
    r.asLists.model? name = (r.model? name).map Model.asLists := by
  simp [Registry.model?, Registry.asLists, List.find?_map, Function.comp_def]

@[simp] theorem Registry.declares_asLists : r.asLists.declares = r.declares := by
  funext name
  simp [Registry.declares, Registry.model?_asLists]

@[simp] theorem Registry.markedServices_asLists :
    r.asLists.markedServices = r.markedServices := rfl

theorem checkModels_asLists {seen : List String} {taken : List (String × String)}
    (models : List Model) :
    checkModels n seen taken (models.map Model.asLists) = checkModels n seen taken models := by
  induction models generalizing seen taken with
  | nil => rfl
  | cons m rest ih => simp [checkModels, ih]

/-! ## What services reach -/

theorem references_asLists (m : Model) : m.asLists.references r.asLists = m.references r := by
  simp only [Model.references, Model.fields_asLists, List.find?_map, List.filterMap_map,
    Function.comp_def, Model.Field.type_asLists, DomainType.referencedModel?_asLists,
    Registry.declares_asLists, Model.name_asLists]
  cases m.fields.find? fun f => f.type.referencedModel?.any fun name => !r.declares name with
  | none => rfl
  | some f => simp

theorem reachFrom_asLists (fresh : List Model) (queue : List String) :
    reachFrom r.asLists (fresh.map Model.asLists) queue = reachFrom r fresh queue := by
  have hfind : ∀ (models : List Model) (name : String),
      (models.map Model.asLists).find? (·.name == name) =
        (models.find? (·.name == name)).map Model.asLists := by
    intro models name
    simp [List.find?_map, Function.comp_def]
  have herase : ∀ (models : List Model) (name : String),
      (models.map Model.asLists).eraseP (·.name == name) =
        (models.eraseP (·.name == name)).map Model.asLists := by
    intro models name
    simp [List.eraseP_map, Function.comp_def]
  induction fresh, queue using reachFrom.induct with
  | case1 fresh => simp [reachFrom]
  | case2 fresh name queue hnone ih =>
    have hnone' := hfind fresh name
    rw [hnone] at hnone'
    rw [reachFrom_of_none hnone, reachFrom_of_none hnone', ih]
  | case3 fresh name queue m hsome ih =>
    have hsome' := hfind fresh name
    rw [hsome] at hsome'
    rw [reachFrom_of_some hsome, reachFrom_of_some hsome', references_asLists, herase]
    simp only [ih]

theorem reach_asLists (s : Service) (methods : List Contract) :
    s.reach methods r.asLists = s.reach methods r := by
  have hfrom := fun queue => reachFrom_asLists (r := r) r.models queue
  unfold Service.reach
  rw [Registry.declares_asLists]
  simp only [Registry.asLists] at hfrom ⊢
  simp only [hfrom]

/-! ## Records -/

theorem contracts_asLists (i : Interface) : i.contracts r.asLists = i.contracts r := by
  have hcontract : ∀ m : Method, m.contract r.asLists = m.contract r := by
    intro m
    simp [Method.contract, Method.declaredModel]
  have hfrom : ∀ (methods : List Method) (taken : List String),
      i.contractsFrom r.asLists taken methods = i.contractsFrom r taken methods := by
    intro methods
    induction methods with
    | nil => exact fun _ => rfl
    | cons m rest ih => simp [Interface.contractsFrom, hcontract, ih]
  exact hfrom i.methods []

theorem serviceRecords_asLists (services : List Service) (taken : List (String × String)) :
    serviceRecords r.asLists n taken services = serviceRecords r n taken services := by
  induction services generalizing taken with
  | nil => rfl
  | cons s rest ih => simp [serviceRecords, contracts_asLists, reach_asLists, ih]

/-! ## Messages -/

theorem make_asLists (f : Model.Field) (ordinal : Nat) (w : WireMapping) :
    Message.Field.make n f.asLists ordinal w = (Message.Field.make n f ordinal w).asLists := by
  simp [Message.Field.make, Message.Field.asLists, isTimestamp_asLists, Model.Field.asLists]

theorem buildField_asLists (model : String) (taken : List String) (ordinal : Nat)
    (f : Model.Field) :
    Alike (fun a b => b = a.asLists) (Message.buildField n model taken ordinal f)
      (Message.buildField n model taken ordinal f.asLists) := by
  unfold Message.buildField
  rw [Model.Field.type_asLists, WireMapping.ofType_asLists]
  cases WireMapping.ofType n f.type with
  | error u => exact .error _ _
  | ok w =>
    simp only [make_asLists, Message.Field.wireName_asLists]
    split_ifs with htaken hmax
    · exact .error _ _
    · exact .error _ _
    · exact .ok rfl

theorem buildFields_asLists (model : String) (fs : List Model.Field) (taken : List String)
    (ordinal : Nat) :
    Alike (fun a b => b = a.map Message.Field.asLists)
      (Message.buildFields n model taken ordinal fs)
      (Message.buildFields n model taken ordinal (fs.map Model.Field.asLists)) := by
  induction fs generalizing taken ordinal with
  | nil => exact .ok rfl
  | cons f rest ih =>
    rw [List.map_cons, Message.buildFields, Message.buildFields]
    apply (buildField_asLists model taken ordinal f).bind
    rintro field _ rfl
    apply (ih (field.wireName :: taken) (ordinal + 1)).bind
    rintro fields _ rfl
    exact .ok rfl

/-- The two forms are refused alike, though the failure prints the type as it was declared. -/
theorem ofModel_asLists (m : Model) :
    Alike (fun a b => b = a.asLists) (Message.ofModel n m) (Message.ofModel n m.asLists) := by
  unfold Message.ofModel
  apply (buildFields_asLists m.name m.fields [] 1).bind
  rintro fields _ rfl
  exact .ok rfl

/-! ## The catalog -/

namespace Catalog

variable {c : Catalog}

theorem asLists_empty : ({} : Catalog).asLists = {} := by simp [asLists]

@[simp] theorem contains_asLists (name : String) :
    c.asLists.contains name = c.contains name := rfl

@[simp] theorem toList_asLists : c.asLists.toList = c.toList.map Message.asLists := by
  simp [toList, asLists]

@[simp] theorem get?_asLists (name : String) :
    c.asLists.get? name = (c.get? name).map Message.asLists := by
  simp only [get?, asLists, Array.getElem?_map]
  cases c.index.get? name <;> rfl

theorem insert_asLists (m : Message) : c.asLists.insert m.asLists = (c.insert m).asLists := by
  unfold insert
  rw [contains_asLists, Message.name_asLists]
  split_ifs with hname
  · rfl
  · simp [asLists]

end Catalog

theorem catalogOf_asLists (names : List String) (c : Catalog) :
    Alike (fun a b => b = a.asLists) (catalogOf r n c names)
      (catalogOf r.asLists n c.asLists names) := by
  induction names generalizing c with
  | nil => exact .ok rfl
  | cons name rest ih =>
    rw [catalogOf, catalogOf, Catalog.contains_asLists, Registry.model?_asLists]
    split_ifs with hname
    · exact ih c
    · cases r.model? name with
      | none => exact .error _ _
      | some m =>
        apply (ofModel_asLists m).bind
        rintro message _ rfl
        rw [Catalog.insert_asLists]
        exact ih (c.insert message)

theorem checkWireServices_asLists (messages : List Message) (records : List ServiceRecord)
    (taken : List (String × String)) :
    checkWireServices n (messages.map Message.asLists) taken records =
      checkWireServices n messages taken records := by
  have hfind : ∀ wire : String, (messages.map Message.asLists).find? (·.wireName == wire) =
      (messages.find? (·.wireName == wire)).map Message.asLists := by
    intro wire
    simp [List.find?_map, Function.comp_def]
  induction records generalizing taken with
  | nil => rfl
  | cons record rest ih =>
    simp only [checkWireServices, hfind, ih]
    cases messages.find? (·.wireName == n.wireService record.shortName) <;> rfl

/-! ## Graphs -/

/-- Discovery does not tell the two forms apart. -/
theorem discover_asLists (r : Registry) (n : Naming) :
    Alike (fun a b => b = a.asLists) (discover r n) (discover r.asLists n) := by
  have hempty : r.asLists.isEmpty = r.isEmpty := by simp [Registry.isEmpty, Registry.asLists]
  have hmodels : checkModels n [] [] r.asLists.models = checkModels n [] [] r.models :=
    checkModels_asLists r.models
  unfold discover
  rw [hempty, hmodels, Registry.markedServices_asLists, serviceRecords_asLists]
  split_ifs with hmarked hnone hnone
  · exact .error _ _
  · apply (Alike.refl _).bind
    rintro _ _ rfl
    exact .error _ _
  · exact .error _ _
  · apply (Alike.refl _).bind
    rintro _ _ rfl
    apply (Alike.refl _).bind
    rintro records _ rfl
    have hcatalog := catalogOf_asLists (r := r) (n := n) (records.flatMap (·.referencedModels)) {}
    rw [Catalog.asLists_empty] at hcatalog
    apply hcatalog.bind
    rintro messages _ rfl
    rw [Catalog.toList_asLists, checkWireServices_asLists]
    apply (Alike.refl _).bind
    rintro _ _ -
    exact .ok rfl

end RpcScaffold
