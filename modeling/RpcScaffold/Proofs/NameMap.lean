import Mathlib.Data.String.Basic
import RpcScaffold.NameMap

/-!
# The order of a map

Entries are put in by their names, so it does not matter in which order they come.
-/

namespace RpcScaffold

variable {α : Type} {name : String} {value : α} {entries : List (String × α)}

/-! ## Two insertions -/

/-- The smaller name finds its place without a look at the greater one. -/
theorem insertEntry_comm_of_lt {x y : String} (h : x < y) (a b : α)
    (entries : List (String × α)) :
    insertEntry x a (insertEntry y b entries) = insertEntry y b (insertEntry x a entries) := by
  have hyx : ¬ y < x := lt_asymm h
  have hne : ¬ y = x := ne_of_gt h
  induction entries with
  | nil => simp [insertEntry, h, hyx, hne]
  | cons e rest ih =>
    obtain ⟨k, v⟩ := e
    rcases lt_trichotomy y k with hk | rfl | hk
    · simp [insertEntry, h, hyx, hne, hk, h.trans hk]
    · simp [insertEntry, h, hyx, hne]
    · have hky : ¬ y = k := ne_of_gt hk
      rcases lt_trichotomy x k with hxk | rfl | hxk
      · simp [insertEntry, hyx, hne, hxk, lt_asymm hk, hky]
      · simp [insertEntry, hyx, hne]
      · simp [insertEntry, lt_asymm hk, hky, lt_asymm hxk, ne_of_gt hxk, ih]

theorem insertEntry_comm {x y : String} (h : x ≠ y) (a b : α) (entries : List (String × α)) :
    insertEntry x a (insertEntry y b entries) = insertEntry y b (insertEntry x a entries) := by
  rcases lt_or_gt_of_ne h with hlt | hgt
  · exact insertEntry_comm_of_lt hlt a b entries
  · exact (insertEntry_comm_of_lt hgt b a entries).symm

/-! ## Sorted entries -/

theorem length_insertEntry (h : entries.lookup name = none) :
    (insertEntry name value entries).length = entries.length + 1 :=
  (insertEntry_perm h value).length_eq

theorem pairwise_insertEntry (h : entries.Pairwise (·.1 < ·.1)) :
    (insertEntry name value entries).Pairwise (·.1 < ·.1) := by
  induction entries with
  | nil => exact List.pairwise_singleton _ _
  | cons e rest ih =>
    obtain ⟨k, v⟩ := e
    obtain ⟨hfirst, hrest⟩ := List.pairwise_cons.mp h
    rw [insertEntry]
    split_ifs with hlt heq
    · refine List.pairwise_cons.mpr ⟨List.forall_mem_cons.mpr ⟨hlt, fun e he => ?_⟩, h⟩
      exact hlt.trans (hfirst e he)
    · subst heq
      exact List.pairwise_cons.mpr ⟨hfirst, hrest⟩
    · refine List.pairwise_cons.mpr ⟨fun e he => ?_, ih hrest⟩
      rcases mem_insertEntry he with rfl | he
      · exact lt_of_le_of_ne (not_lt.mp hlt) fun hk => heq hk.symm
      · exact hfirst e he

theorem lookup_of_mem (h : (entries.map (·.1)).Nodup) {e : String × α} (he : e ∈ entries) :
    entries.lookup e.1 = some e.2 := by
  induction entries with
  | nil => cases he
  | cons first rest ih =>
    obtain ⟨hfirst, hrest⟩ := List.nodup_cons.mp h
    rcases List.mem_cons.mp he with rfl | he
    · exact List.lookup_cons_self
    · have hne : e.1 ≠ first.1 := fun heq => hfirst (List.mem_map.mpr ⟨e, he, heq⟩)
      rw [List.lookup_cons, beq_eq_false_iff_ne.mpr hne]
      exact ih hrest he

namespace NameMap

/-- The names come in their order, each once. -/
def Sorted (m : NameMap α) : Prop := m.entries.Pairwise (·.1 < ·.1)

theorem Sorted.insert {m : NameMap α} (h : m.Sorted) : (m.insert name value).Sorted :=
  pairwise_insertEntry h

theorem Sorted.names {m : NameMap α} (h : m.Sorted) : m.names.Pairwise (· < ·) :=
  List.pairwise_map.mpr h

theorem Sorted.get?_of_mem {m : NameMap α} (h : m.Sorted) (he : (name, value) ∈ m.entries) :
    m.get? name = some value :=
  lookup_of_mem (h.names.imp ne_of_lt) he

end NameMap

end RpcScaffold
