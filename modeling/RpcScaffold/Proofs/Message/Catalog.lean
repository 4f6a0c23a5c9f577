import Mathlib.Data.Finset.Card
import RpcScaffold.Message.Catalog
import RpcScaffold.Proofs.NameMap

/-!
# The catalog of messages

The messages and their index are kept apart, and a look-up goes through both. They describe each
other after any insertions, so that every look-up finds the first message of its name.
-/

namespace RpcScaffold.Catalog

def names (c : Catalog) : List String := c.toList.map (·.name)

@[simp] theorem names_empty : names {} = [] := rfl

/-- The index holds the places of the messages and nothing else. -/
def Indexed (c : Catalog) : Prop :=
  ∀ name i, c.index.get? name = some i ↔ ∃ m, c.toList[i]? = some m ∧ m.name = name

variable {c : Catalog}

theorem Indexed.empty : Indexed {} := by
  intro name i
  simp [toList]

theorem Indexed.nodup (h : c.Indexed) : c.names.Nodup := by
  rw [List.nodup_iff_getElem?_ne_getElem?]
  intro i j hij hj heq
  rw [names, List.length_map] at hj
  have hi : i < c.toList.length := Nat.lt_trans hij hj
  rw [names, List.getElem?_map, List.getElem?_map, List.getElem?_eq_getElem hi,
    List.getElem?_eq_getElem hj, Option.map_some, Option.map_some, Option.some.injEq] at heq
  have hi' := (h _ i).mpr ⟨_, List.getElem?_eq_getElem hi, rfl⟩
  have hj' := (h _ j).mpr ⟨_, List.getElem?_eq_getElem hj, heq.symm⟩
  have : i = j := Option.some.inj (hi'.symm.trans hj')
  omega

theorem Indexed.contains_iff (h : c.Indexed) {name : String} :
    c.contains name = true ↔ name ∈ c.names := by
  rw [contains, NameMap.contains, Option.isSome_iff_exists, names, List.mem_map]
  constructor
  · rintro ⟨i, hi⟩
    obtain ⟨m, hm, hname⟩ := (h name i).mp hi
    exact ⟨m, List.mem_of_getElem? hm, hname⟩
  · rintro ⟨m, hm, hname⟩
    obtain ⟨i, hi⟩ := List.mem_iff_getElem?.mp hm
    exact ⟨i, (h name i).mpr ⟨m, hi, hname⟩⟩

theorem Indexed.contains_eq_false_iff (h : c.Indexed) {name : String} :
    c.contains name = false ↔ name ∉ c.names := by
  rw [← Bool.not_eq_true, h.contains_iff]

theorem Indexed.get?_eq_some (h : c.Indexed) {name : String} {m : Message} :
    c.get? name = some m ↔ m ∈ c.toList ∧ m.name = name := by
  rw [get?, Option.bind_eq_some_iff]
  simp only [← Array.getElem?_toList]
  constructor
  · rintro ⟨i, hi, hm⟩
    obtain ⟨k, hk, hname⟩ := (h name i).mp hi
    obtain rfl := Option.some.inj (hk.symm.trans hm)
    exact ⟨List.mem_of_getElem? hk, hname⟩
  · rintro ⟨hm, hname⟩
    obtain ⟨i, hi⟩ := List.mem_iff_getElem?.mp hm
    exact ⟨i, (h name i).mpr ⟨m, hi, hname⟩, hi⟩

/-- The first message of a name is the only one. -/
theorem Indexed.get?_eq_find? (h : c.Indexed) (name : String) :
    c.get? name = c.toList.find? (·.name == name) := by
  cases hfind : c.toList.find? (·.name == name) with
  | none =>
    rw [Option.eq_none_iff_forall_ne_some]
    intro m hm
    obtain ⟨hmem, rfl⟩ := h.get?_eq_some.mp hm
    simpa using List.find?_eq_none.mp hfind m hmem
  | some m =>
    have hname : m.name = name := by simpa using List.find?_some hfind
    exact h.get?_eq_some.mpr ⟨List.mem_of_find?_eq_some hfind, hname⟩

theorem Indexed.contains_eq (h : c.Indexed) (name : String) :
    c.contains name = (c.get? name).isSome := by
  rw [Bool.eq_iff_iff, h.contains_iff, h.get?_eq_find?, List.find?_isSome, names, List.mem_map]
  simp

theorem toList_insert {m : Message} (h : c.contains m.name = false) :
    (c.insert m).toList = c.toList ++ [m] := by
  simp [insert, h, toList]

theorem getElem?_insert {m k : Message} (h : c.contains m.name = false) {i : Nat} :
    (c.insert m).toList[i]? = some k ↔
      c.toList[i]? = some k ∨ (i = c.toList.length ∧ m = k) := by
  rw [toList_insert h, List.getElem?_append]
  split_ifs with hi
  · exact (or_iff_left fun hlast => absurd hlast.1 (Nat.ne_of_lt hi)).symm
  · rw [List.getElem?_singleton, List.getElem?_eq_none (Nat.le_of_not_lt hi)]
    have hlast : i - c.toList.length = 0 ↔ i = c.toList.length := by omega
    simp [hlast]

theorem Indexed.insert {m : Message} (h : c.Indexed) (hm : c.contains m.name = false) :
    (c.insert m).Indexed := by
  intro name i
  have hindex : (c.insert m).index = c.index.insert m.name c.toList.length := by
    simp [Catalog.insert, hm, toList]
  simp only [getElem?_insert hm]
  rw [hindex, NameMap.get?_insert]
  split_ifs with hname
  · subst hname
    constructor
    · intro hi
      exact ⟨m, .inr ⟨(Option.some.inj hi).symm, rfl⟩, rfl⟩
    · rintro ⟨k, hk | ⟨rfl, rfl⟩, hname⟩
      · have hmem : m.name ∈ c.names := List.mem_map.mpr ⟨k, List.mem_of_getElem? hk, hname⟩
        exact absurd hmem (h.contains_eq_false_iff.mp hm)
      · rfl
  · rw [h name i]
    constructor
    · rintro ⟨k, hk, hk'⟩
      exact ⟨k, .inl hk, hk'⟩
    · rintro ⟨k, hk | ⟨-, rfl⟩, hk'⟩
      · exact ⟨k, hk, hk'⟩
      · exact absurd hk'.symm hname

theorem insert_of_contains {m : Message} (h : c.contains m.name = true) : c.insert m = c := by
  rw [insert, if_pos h]

theorem names_insert {m : Message} (h : c.contains m.name = false) :
    (c.insert m).names = c.names ++ [m.name] := by
  rw [names, toList_insert h, List.map_append]
  rfl

/-! ## Insertions in a row -/

/-- The index and the messages describe each other: a look-up gives the place of the message of that
name, and every message stands under one entry. -/
structure InStep (c : Catalog) : Prop where
  indexed : c.Indexed
  entries : c.index.entries.Perm c.names.zipIdx

theorem InStep.empty : InStep {} := ⟨Indexed.empty, .refl _⟩

theorem InStep.insert (h : c.InStep) (m : Message) : (c.insert m).InStep := by
  cases hm : c.contains m.name with
  | true => rwa [insert_of_contains hm]
  | false =>
    have hlookup : c.index.entries.lookup m.name = none := by
      simpa [contains, NameMap.contains, NameMap.get?] using hm
    have hindex : (c.insert m).index = c.index.insert m.name c.names.length := by
      simp [Catalog.insert, hm, names, toList]
    refine ⟨h.indexed.insert hm, ?_⟩
    rw [hindex, names_insert hm, List.zipIdx_append, Nat.zero_add]
    have hentries := (insertEntry_perm hlookup c.names.length).trans (h.entries.cons _)
    exact hentries.trans (List.perm_append_singleton _ _).symm

/-- The message is found by its name from now on, unless another one was found before. -/
theorem Indexed.get?_insert (h : c.Indexed) (m : Message) (name : String) :
    (c.insert m).get? name = (c.get? name).or ([m].find? (·.name == name)) := by
  cases hm : c.contains m.name with
  | true =>
    rw [insert_of_contains hm]
    by_cases hname : m.name = name
    · rw [hname, h.contains_eq] at hm
      obtain ⟨k, hk⟩ := Option.isSome_iff_exists.mp hm
      rw [hk, Option.some_or]
    · simp [hname]
  | false =>
    rw [(h.insert hm).get?_eq_find?, toList_insert hm, List.find?_append, ← h.get?_eq_find?]

/-- The catalog after these insertions. -/
def insertAll (c : Catalog) (ms : List Message) : Catalog :=
  ms.foldl (fun c m => (c.insertNew m).2) c

theorem insertAll_cons (m : Message) (rest : List Message) :
    c.insertAll (m :: rest) = (c.insert m).insertAll rest := rfl

theorem InStep.insertAll (h : c.InStep) (ms : List Message) : (c.insertAll ms).InStep := by
  induction ms generalizing c with
  | nil => exact h
  | cons m rest ih => exact ih (h.insert m)

theorem InStep.get?_insertAll (h : c.InStep) (ms : List Message) (name : String) :
    (c.insertAll ms).get? name = (c.get? name).or (ms.find? (·.name == name)) := by
  induction ms generalizing c with
  | nil => exact (Option.or_none).symm
  | cons m rest ih =>
    rw [insertAll_cons, ih (h.insert m), h.indexed.get?_insert, Option.or_assoc,
      ← List.find?_append, List.singleton_append]

/-- Of the messages whose names are new, the first one of each name is appended. -/
theorem InStep.toList_insertAll (h : c.InStep) (ms : List Message) :
    (c.insertAll ms).toList =
      c.toList ++ (ms.filter (·.name ∉ c.names)).eraseDupsBy fun a b => a.name == b.name := by
  induction ms generalizing c with
  | nil => exact (List.append_nil _).symm
  | cons m rest ih =>
    rw [insertAll_cons, ih (h.insert m)]
    by_cases hm : m.name ∈ c.names
    · rw [insert_of_contains (h.indexed.contains_iff.mpr hm), List.filter_cons_of_neg (by simpa)]
    · have hnew : c.contains m.name = false := h.indexed.contains_eq_false_iff.mpr hm
      rw [toList_insert hnew, names_insert hnew, List.filter_cons_of_pos (by simpa),
        List.eraseDupsBy_cons, List.filter_filter, List.append_assoc, List.singleton_append]
      congr 3
      apply List.filter_congr
      intro k _
      by_cases hk : k.name = m.name
      · simp [hk]
      · simp [hk]

/-- The catalog of these messages. -/
def ofMessages (ms : List Message) : Catalog := insertAll {} ms

variable (ms : List Message)

theorem inStep_ofMessages : (ofMessages ms).InStep := InStep.empty.insertAll ms

theorem get?_ofMessages (name : String) :
    (ofMessages ms).get? name = ms.find? (·.name == name) :=
  InStep.empty.get?_insertAll ms name

theorem toList_ofMessages :
    (ofMessages ms).toList = ms.eraseDupsBy fun a b => a.name == b.name := by
  rw [ofMessages, InStep.empty.toList_insertAll, names_empty]
  simp [toList]

theorem mem_names_ofMessages {name : String} :
    name ∈ (ofMessages ms).names ↔ name ∈ ms.map (·.name) := by
  have hindexed := (inStep_ofMessages ms).indexed
  rw [← hindexed.contains_iff, hindexed.contains_eq, get?_ofMessages, List.find?_isSome,
    List.mem_map]
  simp

theorem size_ofMessages : (ofMessages ms).size = (ms.map (·.name)).toFinset.card := by
  have hnames : (ofMessages ms).names.toFinset = (ms.map (·.name)).toFinset := by
    ext name
    rw [List.mem_toFinset, List.mem_toFinset, mem_names_ofMessages]
  rw [← hnames, List.toFinset_card_of_nodup (inStep_ofMessages ms).indexed.nodup]
  simp [size, names, toList]

/-- After any insertions the index and the messages describe each other. The messages are the first
ones of their names in the order they came, and a name gives the first message that has it. An
insertion is refused if and only if the name was there, and then it changes nothing. -/
theorem ofMessages_tells :
    (ofMessages ms).InStep ∧
    (ofMessages ms).toList = (ms.eraseDupsBy fun a b => a.name == b.name) ∧
    (∀ name, (ofMessages ms).get? name = ms.find? (·.name == name)) ∧
    (∀ name, (ofMessages ms).contains name = ((ofMessages ms).get? name).isSome) ∧
    (ofMessages ms).size = (ms.map (·.name)).toFinset.card ∧
    ∀ m, (((ofMessages ms).insertNew m).1 = false ↔ m.name ∈ ms.map (·.name)) ∧
      (((ofMessages ms).insertNew m).1 = false →
        ((ofMessages ms).insertNew m).2 = ofMessages ms) := by
  have hstep := inStep_ofMessages ms
  refine ⟨hstep, toList_ofMessages ms, get?_ofMessages ms, hstep.indexed.contains_eq,
    size_ofMessages ms, ?_⟩
  intro m
  have hrefused : ((ofMessages ms).insertNew m).1 = false ↔
      (ofMessages ms).contains m.name = true := by simp [insertNew]
  rw [hrefused]
  constructor
  · rw [hstep.indexed.contains_iff, mem_names_ofMessages]
  · exact insert_of_contains

/-- The second message of a name is refused, although its wire name is another one. -/
theorem ofMessages_tells_note :
    ((ofMessages [⟨"Tag", "GrpcTag", []⟩, ⟨"Note", "GrpcNote", []⟩]).insertNew
      ⟨"Note", "WireNote", []⟩).1 = false ∧
    ((ofMessages [⟨"Tag", "GrpcTag", []⟩, ⟨"Note", "GrpcNote", []⟩]).insertNew
      ⟨"Note", "WireNote", []⟩).2 = ofMessages [⟨"Tag", "GrpcTag", []⟩, ⟨"Note", "GrpcNote", []⟩] := by
  obtain ⟨-, -, -, -, -, hinsert⟩ :=
    ofMessages_tells [⟨"Tag", "GrpcTag", []⟩, ⟨"Note", "GrpcNote", []⟩]
  obtain ⟨hrefused, hsame⟩ := hinsert ⟨"Note", "WireNote", []⟩
  have hfalse := hrefused.mpr (by decide)
  exact ⟨hfalse, hsame hfalse⟩

end RpcScaffold.Catalog
