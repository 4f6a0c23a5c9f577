import Mathlib.Data.List.Forall2
import RpcScaffold.Proofs.Json.RoundTrip
import RpcScaffold.Proofs.Success

/-!
# Leaving out keys

A key may be left out where its value is the one that a missing key stands for. The order of the
members is no matter, so it is enough that each key that is there sets its field and leaves the
others alone.
-/

namespace RpcScaffold.Json

/-- What stands at the end of a path of keys. -/
def at? : List String → Json → Option Json
  | [], v => some v
  | key :: path, v => (v.get? key).bind (at? path)

variable {default? : List String → Option Json} {place : List String}

/-- The second value is the first without some keys, in any order. A place is the keys that lead
there, where the items of a list stand at the place of the list, and `default?` says with which
value the key at a place may be left out. -/
inductive Elided (default? : List String → Option Json) : List String → Json → Json → Prop
  | same {place : List String} (v : Json) : Elided default? place v v
  | item {place : List String} {v v' : Json} {items items' : List Json}
    (hv : Elided default? place v v') (h : Elided default? place (array items) (array items')) :
    Elided default? place (array (v :: items)) (array (v' :: items'))
  | keep {place : List String} {key : String} {v v' : Json}
    {members members' : List (String × Json)} (hv : Elided default? (place ++ [key]) v v')
    (h : Elided default? place (object members) (object members')) :
    Elided default? place (object ((key, v) :: members)) (object ((key, v') :: members'))
  | drop {place : List String} {key : String} {v : Json} {members members' : List (String × Json)}
    (hv : default? (place ++ [key]) = some v)
    (h : Elided default? place (object members) (object members')) :
    Elided default? place (object ((key, v) :: members)) (object members')
  | reorder {place : List String} {members members' : List (String × Json)} {j : Json}
    (hperm : members.Perm members') (h : Elided default? place (object members') j) :
    Elided default? place (object members) j

namespace Elided

theorem eq_of_null {j : Json} (h : Elided default? place null j) : j = null := by
  cases h
  rfl

theorem eq_of_string {s : String} {j : Json} (h : Elided default? place (string s) j) :
    j = string s := by
  cases h
  rfl

theorem eq_of_bool {b : Bool} {j : Json} (h : Elided default? place (bool b) j) : j = bool b := by
  cases h
  rfl

theorem eq_of_number {n : Number} {j : Json} (h : Elided default? place (number n) j) :
    j = number n := by
  cases h
  rfl

theorem exists_items {items : List Json} {j : Json} (h : Elided default? place (array items) j) :
    ∃ items', j = array items' ∧ List.Forall₂ (Elided default? place) items items' := by
  generalize hv : array items = v at h
  induction h generalizing items with
  | same v =>
    subst hv
    exact ⟨items, rfl, List.forall₂_same.mpr fun v _ => .same v⟩
  | item hhead _ _ ih =>
    cases hv
    obtain ⟨items', heq, hitems⟩ := ih rfl
    cases heq
    exact ⟨_, rfl, .cons hhead hitems⟩
  | keep => cases hv
  | drop => cases hv
  | reorder => cases hv

/-- What is left was there, and what is gone was a default. -/
theorem exists_members {members : List (String × Json)} {j : Json}
    (h : Elided default? place (object members) j) :
    ∃ members', j = object members' ∧
      (∀ m' ∈ members', ∃ m ∈ members, m.1 = m'.1 ∧
        Elided default? (place ++ [m.1]) m.2 m'.2) ∧
      ∀ m ∈ members, m.1 ∈ members'.map Prod.fst ∨ default? (place ++ [m.1]) = some m.2 := by
  generalize hv : object members = v at h
  induction h generalizing members with
  | same v =>
    subst hv
    exact ⟨members, rfl, fun m hm => ⟨m, hm, rfl, .same _⟩,
      fun m hm => .inl (List.mem_map_of_mem hm)⟩
  | item => cases hv
  | keep hhead _ _ ih =>
    cases hv
    obtain ⟨members', heq, hleft, hgone⟩ := ih rfl
    cases heq
    refine ⟨_, rfl, ?_, ?_⟩
    · rw [List.forall_mem_cons]
      refine ⟨⟨_, List.mem_cons_self, rfl, hhead⟩, ?_⟩
      intro m' hm'
      obtain ⟨m, hm, hkey⟩ := hleft m' hm'
      exact ⟨m, List.mem_cons_of_mem _ hm, hkey⟩
    · rw [List.forall_mem_cons]
      refine ⟨.inl List.mem_cons_self, ?_⟩
      intro m hm
      exact (hgone m hm).imp_left (List.mem_cons_of_mem _)
  | drop hdefault _ ih =>
    cases hv
    obtain ⟨members', heq, hleft, hgone⟩ := ih rfl
    cases heq
    refine ⟨_, rfl, ?_, List.forall_mem_cons.mpr ⟨.inr hdefault, hgone⟩⟩
    intro m' hm'
    obtain ⟨m, hm, hkey⟩ := hleft m' hm'
    exact ⟨m, List.mem_cons_of_mem _ hm, hkey⟩
  | reorder hperm _ ih =>
    cases hv
    obtain ⟨members', heq, hleft, hgone⟩ := ih rfl
    refine ⟨members', heq, ?_, fun m hm => hgone m (hperm.subset hm)⟩
    intro m' hm'
    obtain ⟨m, hm, hkey⟩ := hleft m' hm'
    exact ⟨m, hperm.symm.subset hm, hkey⟩

theorem eq_nil {members : List (String × Json)}
    (h : Elided default? place (object []) (object members)) : members = [] := by
  obtain ⟨members', heq, hleft, -⟩ := h.exists_members
  rw [object.inj heq, List.eq_nil_iff_forall_not_mem]
  intro m' hm'
  obtain ⟨m, hm, -⟩ := hleft m' hm'
  cases hm

/-- The only member stays if its place has no default. -/
theorem exists_single {key : String} {v j : Json} (h : Elided default? place (object [(key, v)]) j)
    (hkey : default? (place ++ [key]) = none) :
    ∃ v', j = object [(key, v')] ∧ Elided default? (place ++ [key]) v v' := by
  generalize hv : object [(key, v)] = w at h
  induction h with
  | same w =>
    subst hv
    exact ⟨v, rfl, .same v⟩
  | item => cases hv
  | keep hhead h _ =>
    cases hv
    exact ⟨_, by rw [h.eq_nil], hhead⟩
  | drop hdefault _ _ =>
    cases hv
    rw [hkey] at hdefault
    cases hdefault
  | reorder hperm _ ih =>
    cases hv
    exact ih hkey (congrArg object (List.singleton_perm.mp hperm))

theorem within {v j : Json} (h : Elided default? place v j) :
    ∀ {depth : Nat}, Within depth v → Within depth j := by
  induction h with
  | same v => exact fun hv => hv
  | item _ _ ihv ih =>
    rintro depth (_ | _ | _ | _ | hitems | _)
    rw [List.forall_mem_cons] at hitems
    cases ih (.array hitems.2) with
    | array hrest => exact .array (List.forall_mem_cons.mpr ⟨ihv hitems.1, hrest⟩)
  | keep _ _ ihv ih =>
    rintro depth (_ | _ | _ | _ | _ | hmembers)
    rw [List.forall_mem_cons] at hmembers
    cases ih (.object hmembers.2) with
    | object hrest => exact .object (List.forall_mem_cons.mpr ⟨ihv hmembers.1, hrest⟩)
  | drop _ _ ih =>
    rintro depth (_ | _ | _ | _ | _ | hmembers)
    exact ih (.object (List.forall_mem_cons.mp hmembers).2)
  | reorder hperm _ ih =>
    rintro depth (_ | _ | _ | _ | _ | hmembers)
    exact ih (.object fun m hm => hmembers m (hperm.symm.subset hm))

end Elided

/-! ## Members by key -/

theorem mem_sortMembers {members : List (String × Json)} {m : String × Json}
    (h : m ∈ sortMembers members) : m ∈ members := by
  have hfold : ∀ acc, m ∈ members.foldl (fun sorted m => insertEntry m.1 m.2 sorted) acc →
      m ∈ acc ∨ m ∈ members := by
    clear h
    induction members with
    | nil => exact fun acc h => .inl h
    | cons k rest ih =>
      intro acc h
      rcases ih _ h with h | h
      · rcases mem_insertEntry h with rfl | h
        · exact .inr List.mem_cons_self
        · exact .inl h
      · exact .inr (List.mem_cons_of_mem k h)
  rcases hfold [] h with h | h
  · cases h
  · exact h

theorem mem_keys_insertEntry {key k : String} {v : Json} {entries : List (String × Json)} :
    k ∈ (insertEntry key v entries).map Prod.fst ↔ k = key ∨ k ∈ entries.map Prod.fst := by
  induction entries with
  | nil => simp [insertEntry]
  | cons e rest ih =>
    rw [insertEntry]
    split_ifs with hlt heq
    · simp
    · simp [heq]
    · rw [List.map_cons, List.mem_cons, ih, List.map_cons, List.mem_cons]
      tauto

theorem mem_keys_sortMembers {key : String} {members : List (String × Json)} :
    key ∈ (sortMembers members).map Prod.fst ↔ key ∈ members.map Prod.fst := by
  have hfold : ∀ acc : List (String × Json),
      key ∈ (members.foldl (fun sorted m => insertEntry m.1 m.2 sorted) acc).map Prod.fst ↔
        key ∈ acc.map Prod.fst ∨ key ∈ members.map Prod.fst := by
    induction members with
    | nil => simp
    | cons m rest ih =>
      intro acc
      rw [List.foldl_cons, ih, mem_keys_insertEntry, List.map_cons, List.mem_cons]
      tauto
  simpa [sortMembers] using hfold []

theorem exists_of_mem_sorted {members : List (String × Json)} {m : String × Json}
    (h : m ∈ sortMembers (sortedMembers members)) : ∃ m' ∈ members, (m'.1, m'.2.sorted) = m := by
  rw [sortedMembers_eq] at h
  exact List.mem_map.mp (mem_sortMembers h)

theorem mem_keys_sorted {key : String} {members : List (String × Json)} :
    key ∈ (sortMembers (sortedMembers members)).map Prod.fst ↔ key ∈ members.map Prod.fst := by
  rw [mem_keys_sortMembers, sortedMembers_eq, List.map_map]
  rfl

/-! ## Lists -/

theorem decodeList_of_elided {α : Type} {item : Decoder α} {encode : α → Json} {as : List α}
    (hitem : ∀ a ∈ as, ∀ j, Elided default? place (encode a) j → item j.sorted = .ok a) {j : Json}
    (hj : Elided default? place (array (as.map encode)) j) : decodeList item j.sorted = .ok as := by
  obtain ⟨items, rfl, hitems⟩ := hj.exists_items
  rw [sorted, sortedItems_eq, decodeList]
  clear hj
  induction as generalizing items with
  | nil =>
    cases hitems
    rfl
  | cons a rest ih =>
    rw [List.forall_mem_cons] at hitem
    rw [List.map_cons] at hitems
    obtain ⟨j, js, hj, hjs, rfl⟩ := List.forall₂_cons_left_iff.mp hitems
    rw [List.map_cons, List.mapM_cons, hitem.1 j hj, ih hitem.2 js hjs]
    rfl

/-! ## Records -/

/-- A field of the record that is wanted: its key, how it is written, and which drafts have it. -/
structure Slot (α : Type) where
  key : String
  value : Json
  Held : α → Prop

namespace Record

variable {α : Type}

/-- The slots make up `a`. Those at a default may be missing. -/
structure Builds (r : Record α) (default? : List String → Option Json) (place : List String)
    (slots : List (Slot α)) (a : α) : Prop where
  keys : slots.map Slot.key = r.keys
  required : r.required ⊆ r.keys
  /-- A key fills its slot and leaves the others as they are. -/
  set : ∀ s ∈ slots, ∀ j, Elided default? (place ++ [s.key]) s.value j → ∀ d,
    ∃ d', r.set s.key j.sorted d = .ok d' ∧ ∀ o ∈ slots, o.key = s.key ∨ o.Held d → o.Held d'
  missing : ∀ s ∈ slots, default? (place ++ [s.key]) = some s.value →
    s.key ∉ r.required ∧ s.Held r.draft
  whole : ∀ d, (∀ s ∈ slots, s.Held d) → d = a

variable {r : Record α} {a : α} {slots : List (Slot α)}

/-- By induction on the members: a slot is filled if its key has been read or if it was filled
before. -/
theorem exists_foldlM {members : List (String × Json)}
    (hmembers : ∀ m ∈ members, m.1 ∈ r.keys ∧ ∀ d, ∃ d', r.set m.1 m.2 d = .ok d' ∧
      ∀ o ∈ slots, o.key = m.1 ∨ o.Held d → o.Held d') :
    ∀ d, ∃ d', members.foldlM (fun draft m =>
        if r.keys.contains m.1 then r.set m.1 m.2 draft else pure draft) d = .ok d' ∧
      ∀ o ∈ slots, o.Held d ∨ o.key ∈ members.map Prod.fst → o.Held d' := by
  induction members with
  | nil =>
    intro d
    refine ⟨d, rfl, ?_⟩
    rintro o - (hheld | hkey)
    · exact hheld
    · cases hkey
  | cons m rest ih =>
    intro d
    rw [List.forall_mem_cons] at hmembers
    obtain ⟨⟨hkey, hset⟩, hrest⟩ := hmembers
    obtain ⟨d₁, hset, hheld⟩ := hset d
    obtain ⟨d', hfold, hall⟩ := ih hrest d₁
    refine ⟨d', ?_, ?_⟩
    · rw [List.foldlM_cons, if_pos (List.contains_iff_mem.mpr hkey), hset]
      exact hfold
    · intro o ho hcases
      apply hall o ho
      rcases hcases with hbefore | hmem
      · exact .inl (hheld o ho (.inr hbefore))
      · exact (List.mem_cons.mp hmem).imp_left fun heq => hheld o ho (.inl heq)

theorem Builds.decode (h : r.Builds default? place slots a) {j : Json}
    (hj : Elided default? place (object (slots.map fun s => (s.key, s.value))) j)
    (origin : Origin) : r.decode origin j.sorted = .ok a := by
  obtain ⟨members, rfl, hleft, hgone⟩ := hj.exists_members
  rw [List.forall_mem_map] at hgone
  rw [sorted]
  have hmembers : ∀ m ∈ sortMembers (sortedMembers members),
      m.1 ∈ r.keys ∧ ∀ d, ∃ d', r.set m.1 m.2 d = .ok d' ∧
        ∀ o ∈ slots, o.key = m.1 ∨ o.Held d → o.Held d' := by
    intro m hm
    obtain ⟨m', hm', rfl⟩ := exists_of_mem_sorted hm
    obtain ⟨m₀, hm₀, hkey, helided⟩ := hleft m' hm'
    obtain ⟨s, hs, rfl⟩ := List.mem_map.mp hm₀
    change s.key = m'.1 at hkey
    have hset := h.set s hs m'.2 helided
    rw [hkey] at hset
    exact ⟨h.keys ▸ hkey ▸ List.mem_map_of_mem hs, hset⟩
  have hpresent : ∀ s ∈ slots,
      s.key ∈ (sortMembers (sortedMembers members)).map Prod.fst ∨
        s.key ∉ r.required ∧ s.Held r.draft := by
    intro s hs
    exact (hgone s hs).imp mem_keys_sorted.mpr (h.missing s hs)
  obtain ⟨d, hfold, hall⟩ := exists_foldlM hmembers r.draft
  have hwhole : d = a := by
    apply h.whole
    intro s hs
    exact hall s hs ((hpresent s hs).symm.imp_left (·.2))
  have hrequired : r.required.find? (fun key =>
      !((sortMembers (sortedMembers members)).any (·.1 == key))) = none := by
    rw [List.find?_eq_none]
    intro key hkey
    obtain ⟨s, hs, rfl⟩ := List.mem_map.mp (h.keys ▸ h.required hkey)
    have hmem := (hpresent s hs).resolve_right fun hnot => hnot.1 hkey
    simpa using hmem
  rw [Record.decode, ofMembers, hfold, ← hwhole]
  simp only [bind, Except.bind, hrequired]
  rfl

end Record

end RpcScaffold.Json
