/-! # Maps from names, in the order of the names

Names are compared by their characters, which is also the order of their UTF-8 bytes.
-/

namespace RpcScaffold

/-- Puts an entry in its place. An entry with the same name gives way. -/
def insertEntry {α : Type} (name : String) (value : α) :
    List (String × α) → List (String × α)
  | [] => [(name, value)]
  | (k, v) :: rest =>
    if name < k then (name, value) :: (k, v) :: rest
    else if name = k then (name, value) :: rest
    else (k, v) :: insertEntry name value rest

theorem lookup_insertEntry {α : Type} (name key : String) (value : α)
    (entries : List (String × α)) :
    (insertEntry name value entries).lookup key
      = if key = name then some value else entries.lookup key := by
  induction entries with
  | nil =>
    by_cases h : key = name
    · simp [insertEntry, h]
    · have hb : (key == name) = false := by simpa using h
      simp [insertEntry, List.lookup_cons, hb, h]
  | cons e rest ih =>
    obtain ⟨k, v⟩ := e
    simp only [insertEntry]
    by_cases h : key = name
    · subst h
      split
      · simp
      · split
        · simp
        · next hk =>
          have hb : (key == k) = false := by simpa using hk
          simp [List.lookup_cons, hb, ih]
    · have hb : (key == name) = false := by simpa using h
      split
      · simp [List.lookup_cons, hb]
      · split
        · next hk =>
          subst hk
          simp [List.lookup_cons, hb]
        · by_cases hkk : key = k
          · subst hkk
            simp
          · have hbk : (key == k) = false := by simpa using hkk
            simp [List.lookup_cons, hbk, ih, h]

theorem mem_insertEntry {α : Type} {name : String} {value : α} {entries : List (String × α)}
    {e : String × α} (h : e ∈ insertEntry name value entries) :
    e = (name, value) ∨ e ∈ entries := by
  induction entries with
  | nil => exact .inl (List.mem_singleton.mp h)
  | cons first rest ih =>
    rw [insertEntry] at h
    split at h
    · exact List.mem_cons.mp h
    · split at h
      · exact (List.mem_cons.mp h).imp_right (List.mem_cons_of_mem first)
      · rcases List.mem_cons.mp h with rfl | h
        · exact .inr List.mem_cons_self
        · exact (ih h).imp_right (List.mem_cons_of_mem first)

theorem insertEntry_perm {α : Type} {name : String} {entries : List (String × α)}
    (h : entries.lookup name = none) (value : α) :
    (insertEntry name value entries).Perm ((name, value) :: entries) := by
  induction entries with
  | nil => exact .refl _
  | cons e rest ih =>
    obtain ⟨k, v⟩ := e
    rw [insertEntry]
    by_cases hk : name = k
    · simp [hk] at h
    · have hb : (name == k) = false := by simpa using hk
      rw [List.lookup_cons, hb] at h
      rw [if_neg hk]
      split
      · exact .refl _
      · exact ((ih h).cons (k, v)).trans (.swap _ _ _)

structure NameMap (α : Type) where
  entries : List (String × α) := []
  deriving Repr, DecidableEq, Inhabited

namespace NameMap

variable {α : Type} (m : NameMap α)

def get? (name : String) : Option α := m.entries.lookup name

def contains (name : String) : Bool := (m.get? name).isSome

def insert (name : String) (value : α) : NameMap α := ⟨insertEntry name value m.entries⟩

def ofList (entries : List (String × α)) : NameMap α :=
  entries.foldl (fun m e => m.insert e.1 e.2) {}

def size : Nat := m.entries.length

def isEmpty : Bool := m.entries.isEmpty

def names : List String := m.entries.map (·.1)

def values : List α := m.entries.map (·.2)

@[simp] theorem get?_empty (name : String) : ({} : NameMap α).get? name = none := rfl

theorem get?_insert (name key : String) (value : α) :
    (m.insert name value).get? key = if key = name then some value else m.get? key :=
  lookup_insertEntry name key value m.entries

end NameMap

end RpcScaffold
