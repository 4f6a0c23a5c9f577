import RpcScaffold.Proofs.Discovery.Spec
import RpcScaffold.Proofs.Free
import RpcScaffold.Proofs.Lists
import RpcScaffold.Proofs.Success

/-! # Which models pass the checks -/

namespace RpcScaffold

/-! ## Declared names -/

theorem Registry.name_of_model? {r : Registry} {name : String} {m : Model}
    (h : r.model? name = some m) : m.name = name := by
  simpa using List.find?_some h

theorem Registry.model?_eq_some {r : Registry} (hr : r.names.Nodup) {name : String} {m : Model} :
    r.model? name = some m ↔ m ∈ r.models ∧ m.name = name := by
  constructor
  · intro h
    exact ⟨List.mem_of_find?_eq_some h, Registry.name_of_model? h⟩
  · rintro ⟨hm, rfl⟩
    obtain ⟨k, hk⟩ : ∃ k, r.model? m.name = some k := by
      rw [← Option.isSome_iff_exists, Registry.model?, List.find?_isSome]
      exact ⟨m, hm, by simp⟩
    have hkm : k = m := List.inj_on_of_nodup_map hr (List.mem_of_find?_eq_some hk) hm
      (Registry.name_of_model? hk)
    rw [hk, hkm]

theorem Registry.declares_iff {r : Registry} {name : String} :
    r.declares name = true ↔ name ∈ r.names := by
  simp [Registry.declares, Registry.model?, Registry.names]

theorem Registry.mem_names {r : Registry} {name : String} :
    name ∈ r.names ↔ ∃ m ∈ r.models, m.name = name := by
  simp [Registry.names]

/-! ## Claimed identifiers -/

theorem lookup_eq_none {entries : List (String × String)} {key : String} :
    entries.lookup key = none ↔ key ∉ entries.map (·.1) := by
  rw [List.lookup_eq_none_iff]
  simp only [bne_iff_ne, List.mem_map, not_exists, not_and]
  exact ⟨fun h e he hk => h e he hk.symm, fun h e he hk => h e he hk.symm⟩

theorem claimIdent_eq_ok {taken taken' : List (String × String)} {owner ident : String} :
    claimIdent taken owner ident = .ok taken' ↔
      ident ∉ taken.map (·.1) ∧ taken' = (ident, owner) :: taken := by
  rw [← lookup_eq_none, claimIdent]
  cases h : taken.lookup ident with
  | none => simp [eq_comm]
  | some first => simp

/-! ## The check -/

theorem checkModels_eq_ok {n : Naming} {models : List Model} {seen : List String}
    {taken : List (String × String)} :
    checkModels n seen taken models = .ok () ↔
      (∀ m ∈ models, isIdentifier m.name = true) ∧ Free seen (models.map (·.name)) ∧
      Free (taken.map (·.1)) (models.flatMap (·.idents n)) := by
  induction models generalizing seen taken with
  | nil => simp [checkModels]
  | cons m rest ih =>
    rw [checkModels]
    simp only [check_eq_ok, bind_eq_ok, claimIdent_eq_ok, and_assoc, exists_and_left, exists_eq_left,
      ih, List.map_cons, List.forall_mem_cons, List.flatMap_cons, Model.idents, List.cons_append,
      List.nil_append, free_cons, Bool.not_eq_true', Bool.not_eq_false, List.contains_iff_mem]
    constructor
    · rintro ⟨hid, hname, hwire, hmodule, hids, hnames, hidents⟩
      exact ⟨hid, hids, hname, hnames, hwire, hmodule, hidents⟩
    · rintro ⟨hid, hids, hname, hnames, hwire, hmodule, hidents⟩
      exact ⟨hid, hname, hwire, hmodule, hids, hnames, hidents⟩

/-! ## Messages -/

/-- The field of a message at the place `p.2`. -/
def MakesField (n : Naming) (p : Model.Field × Nat) (field : Message.Field) : Prop :=
  ∃ w, WireMapping.ofType n p.1.type = .ok w ∧ field = Message.Field.make n p.1 p.2 w

theorem MakesField.wireName_eq {n : Naming} {p : Model.Field × Nat} {field : Message.Field}
    (h : MakesField n p field) : field.wireName = p.1.wireName n := by
  obtain ⟨w, -, rfl⟩ := h
  rfl

theorem MakesField.unique {n : Naming} {p : Model.Field × Nat} {field field' : Message.Field}
    (h : MakesField n p field) (h' : MakesField n p field') : field = field' := by
  obtain ⟨w, hw, rfl⟩ := h
  obtain ⟨w', hw', rfl⟩ := h'
  rw [Except.ok.inj (hw.symm.trans hw')]

theorem buildField_eq_ok {n : Naming} {model : String} {taken : List String} {ordinal : Nat}
    {f : Model.Field} {field : Message.Field} :
    Message.buildField n model taken ordinal f = .ok field ↔
      MakesField n (f, ordinal) field ∧ f.wireName n ∉ taken ∧ ordinal ≤ Message.maxFields := by
  rw [Message.buildField, MakesField]
  cases hw : WireMapping.ofType n f.type with
  | error u => simp
  | ok w =>
    have hname : (Message.Field.make n f ordinal w).wireName = f.wireName n := rfl
    simp only [hname, List.contains_iff_mem, gt_iff_lt, Except.ok.injEq, exists_eq_left']
    split_ifs with htaken hmax
    · simp [htaken]
    · simp only [false_iff]
      omega
    · simp only [Except.ok.injEq, htaken, not_false_eq_true, true_and]
      constructor
      · rintro rfl
        exact ⟨rfl, by omega⟩
      · rintro ⟨rfl, -⟩
        rfl

theorem buildFields_eq_ok {n : Naming} {model : String} {fs : List Model.Field}
    {taken : List String} {ordinal : Nat} {fields : List Message.Field} :
    Message.buildFields n model taken ordinal fs = .ok fields ↔
      List.Forall₂ (MakesField n) (fs.zipIdx ordinal) fields ∧ Free taken (fs.map (·.wireName n)) ∧
      (fs ≠ [] → ordinal + fs.length ≤ Message.maxFields + 1) := by
  induction fs generalizing taken ordinal fields with
  | nil =>
    rw [Message.buildFields]
    simp [eq_comm]
  | cons f rest ih =>
    rw [Message.buildFields]
    simp only [bind_eq_ok, buildField_eq_ok, pure_eq_ok, ih, List.zipIdx_cons, List.map_cons,
      List.length_cons, free_cons]
    have hlast : (ordinal ≤ Message.maxFields ∧
        (rest ≠ [] → ordinal + 1 + rest.length ≤ Message.maxFields + 1)) ↔
        ordinal + (rest.length + 1) ≤ Message.maxFields + 1 := by
      cases rest with
      | nil => simp
      | cons => simp; omega
    constructor
    · rintro ⟨field, ⟨hf, hname, hmax⟩, others, ⟨hothers, hfree, hmaxs⟩, rfl⟩
      rw [hf.wireName_eq] at hfree
      exact ⟨.cons hf hothers, ⟨hname, hfree⟩, fun _ => hlast.mp ⟨hmax, hmaxs⟩⟩
    · rintro ⟨hfields, ⟨hname, hfree⟩, hmaxs⟩
      cases hfields with
      | @cons _ field _ others hf hothers =>
        obtain ⟨hmax, hrest⟩ := hlast.mpr (hmaxs (by simp))
        refine ⟨field, ⟨hf, hname, hmax⟩, others, ⟨hothers, ?_, hrest⟩, rfl⟩
        rw [hf.wireName_eq]
        exact hfree

/-- What `Message.ofModel` makes of a model. -/
structure IsMessage (n : Naming) (m : Model) (message : Message) : Prop where
  name : message.name = m.name
  wireName : message.wireName = n.wireMessage m.name
  fields : List.Forall₂ (MakesField n) (m.fields.zipIdx 1) message.fields

/-- What is read off the fields of a message can be read off the declaration. -/
theorem IsMessage.map_fields {n : Naming} {m : Model} {message : Message} {α : Type}
    (h : IsMessage n m message) {read : Message.Field → α} {declared : Model.Field × Nat → α}
    (hread : ∀ p field, MakesField n p field → read field = declared p) :
    message.fields.map read = (m.fields.zipIdx 1).map declared := by
  rw [← List.forall₂_eq_eq_eq, List.forall₂_map_left_iff, List.forall₂_map_right_iff]
  exact h.fields.flip.imp fun field p hp => hread p field hp

/-- The fields keep the order of the declaration. -/
theorem IsMessage.map_fields_fst {n : Naming} {m : Model} {message : Message} {α : Type}
    (h : IsMessage n m message) {read : Message.Field → α} {declared : Model.Field → α}
    (hread : ∀ p field, MakesField n p field → read field = declared p.1) :
    message.fields.map read = m.fields.map declared := by
  have hplaces : (m.fields.zipIdx 1).map (fun p => declared p.1) =
      ((m.fields.zipIdx 1).map Prod.fst).map declared := by
    rw [List.map_map]
    rfl
  rw [h.map_fields hread, hplaces, List.zipIdx_map_fst]

theorem ofModel_eq_ok {n : Naming} {m : Model} {message : Message} :
    Message.ofModel n m = .ok message ↔
      IsMessage n m message ∧ (m.fields.map (·.wireName n)).Nodup ∧ m.fields.length < 2 ^ 32 := by
  rw [Message.ofModel]
  simp only [bind_eq_ok, pure_eq_ok, buildFields_eq_ok, free_of_nil]
  have hmax : (m.fields ≠ [] → 1 + m.fields.length ≤ Message.maxFields + 1) ↔
      m.fields.length < 2 ^ 32 := by
    cases m.fields with
    | nil => simp
    | cons => simp [Message.maxFields]; omega
  constructor
  · rintro ⟨fields, ⟨hfields, hnames, hle⟩, rfl⟩
    exact ⟨⟨rfl, rfl, hfields⟩, hnames, hmax.mp hle⟩
  · rintro ⟨⟨hname, hwire, hfields⟩, hnames, hfew⟩
    refine ⟨message.fields, ⟨hfields, hnames, hmax.mpr hfew⟩, ?_⟩
    cases message
    simp only at hname hwire
    rw [hname, hwire]

theorem exists_makesField {n : Naming} {fs : List Model.Field} (ordinal : Nat) :
    (∃ fields, List.Forall₂ (MakesField n) (fs.zipIdx ordinal) fields) ↔
      ∀ f ∈ fs, ∃ w, WireMapping.ofType n f.type = .ok w := by
  rw [exists_forall₂]
  constructor
  · intro h f hf
    obtain ⟨i, hi⟩ := List.mem_iff_getElem?.mp hf
    obtain ⟨_, w, hw, -⟩ := h (f, ordinal + i) (List.mk_add_mem_zipIdx_iff_getElem?.mpr hi)
    exact ⟨w, hw⟩
  · rintro h ⟨f, i⟩ hf
    obtain ⟨w, hw⟩ := h f (List.fst_mem_of_mem_zipIdx hf)
    exact ⟨_, w, hw, rfl⟩

theorem exists_ofModel_eq_ok {n : Naming} {m : Model} :
    (∃ message, Message.ofModel n m = .ok message) ↔
      (∀ f ∈ m.fields, ∃ w, WireMapping.ofType n f.type = .ok w) ∧
      (m.fields.map (·.wireName n)).Nodup ∧ m.fields.length < 2 ^ 32 := by
  simp only [ofModel_eq_ok, exists_and_right]
  rw [← exists_makesField 1]
  constructor
  · rintro ⟨⟨message, hm⟩, h⟩
    exact ⟨⟨_, hm.fields⟩, h⟩
  · rintro ⟨⟨fields, hf⟩, h⟩
    exact ⟨⟨⟨m.name, n.wireMessage m.name, fields⟩, rfl, rfl, hf⟩, h⟩

end RpcScaffold
