import Mathlib.Data.List.Nodup

/-! # Names that are still free

Several checks go through a list of names and remember the names they met before.
-/

namespace RpcScaffold

/-- The names can be taken one after the other, when those of `taken` are gone. -/
def Free (taken names : List String) : Prop := names.Nodup ∧ ∀ name ∈ names, name ∉ taken

variable {taken names : List String} {name : String}

@[simp] theorem free_nil : Free taken [] := by simp [Free]

theorem free_cons : Free taken (name :: names) ↔ name ∉ taken ∧ Free (name :: taken) names := by
  rw [Free, Free, List.nodup_cons, List.forall_mem_cons]
  constructor
  · rintro ⟨⟨hnot, hnodup⟩, hname, hall⟩
    refine ⟨hname, hnodup, ?_⟩
    intro x hx hmem
    rcases List.mem_cons.mp hmem with rfl | hmem
    · exact hnot hx
    · exact hall x hx hmem
  · rintro ⟨hname, hnodup, hall⟩
    refine ⟨⟨?_, hnodup⟩, hname, ?_⟩
    · intro hmem
      exact hall name hmem List.mem_cons_self
    · intro x hx hmem
      exact hall x hx (List.mem_cons_of_mem _ hmem)

theorem free_of_nil : Free [] names ↔ names.Nodup := by simp [Free]

theorem Free.perm {names' : List String} (h : Free taken names) (hperm : names.Perm names') :
    Free taken names' :=
  ⟨hperm.nodup_iff.mp h.1, fun name hname => h.2 name (hperm.mem_iff.mpr hname)⟩

end RpcScaffold
