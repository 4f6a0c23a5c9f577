import RpcScaffold.Proofs.Discovery.Reach
import RpcScaffold.Proofs.Message.Catalog

/-! # The catalog of a registry -/

namespace RpcScaffold

/-- Every message is made of the model of its name. -/
structure Catalog.Built (c : Catalog) (r : Registry) (n : Naming) : Prop where
  indexed : c.Indexed
  ofModel : ∀ message ∈ c.toList, ∃ m, r.model? message.name = some m ∧
    Message.ofModel n m = .ok message

variable {r : Registry} {n : Naming} {c c' : Catalog} {names : List String}

theorem Catalog.Built.empty : Catalog.Built {} r n :=
  ⟨Indexed.empty, by simp [Catalog.toList]⟩

theorem Catalog.Built.insert (h : c.Built r n) {message : Message} {m : Model}
    (hnew : c.contains message.name = false) (hm : r.model? message.name = some m)
    (hok : Message.ofModel n m = .ok message) : (c.insert message).Built r n := by
  refine ⟨h.indexed.insert hnew, ?_⟩
  intro k hk
  rw [toList_insert hnew, List.mem_append, List.mem_singleton] at hk
  rcases hk with hk | rfl
  · exact h.ofModel k hk
  · exact ⟨m, hm, hok⟩

/-- What `catalogOf` does with a name that is new. -/
theorem catalogOf_cons_eq_ok {name : String} (hnew : c.contains name = false) :
    catalogOf r n c (name :: names) = .ok c' ↔ ∃ m message, r.model? name = some m ∧
      Message.ofModel n m = .ok message ∧ catalogOf r n (c.insert message) names = .ok c' := by
  rw [catalogOf, hnew]
  cases hm : r.model? name with
  | none => simp [throw, throwThe, MonadExceptOf.throw]
  | some m => simp [bind_eq_ok]

theorem name_eq_of_model? {name : String} {m : Model} {message : Message}
    (hm : r.model? name = some m) (hok : Message.ofModel n m = .ok message) :
    message.name = name :=
  (ofModel_eq_ok.mp hok).1.name.trans (Registry.name_of_model? hm)

theorem catalogOf_spec (hc : c.Built r n) (h : catalogOf r n c names = .ok c') :
    c'.Built r n ∧ c'.names = c.names ++ pending c.names names := by
  induction names generalizing c with
  | nil =>
    rw [catalogOf] at h
    cases h
    exact ⟨hc, by simp [pending]⟩
  | cons name rest ih =>
    by_cases hname : name ∈ c.names
    · rw [catalogOf, if_pos (hc.indexed.contains_iff.mpr hname)] at h
      rw [pending_cons_of_mem hname]
      exact ih hc h
    · have hnew : c.contains name = false := hc.indexed.contains_eq_false_iff.mpr hname
      obtain ⟨m, message, hm, hok, hrest⟩ := (catalogOf_cons_eq_ok hnew).mp h
      obtain rfl := name_eq_of_model? hm hok
      obtain ⟨hbuilt, hnames⟩ := ih (hc.insert hnew hm hok) hrest
      refine ⟨hbuilt, ?_⟩
      rw [hnames, Catalog.names_insert hnew, pending_cons_of_not_mem hname, List.append_assoc]
      rfl

/-- Every name in the list is built, unless its message is there. -/
theorem exists_catalogOf (hc : c.Built r n)
    (hall : ∀ name ∈ names, ∃ m message, r.model? name = some m ∧
      Message.ofModel n m = .ok message) : ∃ c', catalogOf r n c names = .ok c' := by
  induction names generalizing c with
  | nil => exact ⟨c, by rw [catalogOf]⟩
  | cons name rest ih =>
    rw [List.forall_mem_cons] at hall
    obtain ⟨⟨m, message, hm, hok⟩, hrest⟩ := hall
    by_cases hname : c.contains name = true
    · obtain ⟨c', hc'⟩ := ih hc hrest
      exact ⟨c', by rw [catalogOf, if_pos hname, hc']⟩
    · rw [Bool.not_eq_true] at hname
      obtain rfl := name_eq_of_model? hm hok
      obtain ⟨c', hc'⟩ := ih (hc.insert hname hm hok) hrest
      exact ⟨c', (catalogOf_cons_eq_ok hname).mpr ⟨m, message, hm, hok, hc'⟩⟩

end RpcScaffold
