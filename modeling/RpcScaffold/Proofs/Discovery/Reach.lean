import RpcScaffold.Proofs.Discovery.Worklist

/-!
# The models a service reaches

The search of `Graph/Reach.lean` keeps a queue that may hold a name twice, and the models not
visited yet. It finds what the worklist finds, and that is what is reachable.
-/

namespace RpcScaffold

/-! ## Names in a queue -/

/-- The names that are not done, each at its first occurrence. -/
def pending (done queue : List String) : List String := (queue.filter (· ∉ done)).eraseDups

@[simp] theorem pending_nil (done : List String) : pending done [] = [] := rfl

theorem mem_pending {done queue : List String} {x : String} :
    x ∈ pending done queue ↔ x ∈ queue ∧ x ∉ done := by
  simp [pending, List.mem_eraseDups]

theorem pending_cons_of_mem {done queue : List String} {name : String} (h : name ∈ done) :
    pending done (name :: queue) = pending done queue := by
  simp [pending, h]

theorem pending_cons_of_not_mem {done queue : List String} {name : String} (h : name ∉ done) :
    pending done (name :: queue) = name :: pending (done ++ [name]) queue := by
  rw [pending, List.filter_cons_of_pos (by simpa using h), List.eraseDups_cons, List.filter_filter,
    pending]
  congr 2
  apply List.filter_congr
  intro x _
  by_cases hx : x = name
  · simp [hx]
  · simp [hx]

theorem pending_congr {done done' queue : List String} (h : ∀ x, x ∈ done ↔ x ∈ done') :
    pending done queue = pending done' queue := by
  simp only [pending, h]

theorem pending_append (done as bs : List String) :
    pending done (as ++ bs) = pending done as ++ pending (done ++ as) bs := by
  rw [pending, List.filter_append, List.eraseDups_append, ← pending, List.removeAll,
    List.filter_filter, pending]
  congr 2
  apply List.filter_congr
  intro x _
  by_cases hx : x ∈ done
  · simp [hx]
  · simp [hx]

theorem pending_concat (done queue : List String) (x : String) :
    pending done (queue ++ [x]) =
      if x ∈ done ∨ x ∈ queue then pending done queue else pending done queue ++ [x] := by
  rw [pending_append]
  split_ifs with h
  · rw [pending_cons_of_mem (List.mem_append.mpr h), pending_nil, List.append_nil]
  · rw [pending_cons_of_not_mem (by simpa using h), pending_nil]

/-! ## Visits -/

theorem reachFrom_of_none {r : Registry} {models : List Model} {name : String} {queue : List String}
    (h : models.find? (·.name == name) = none) :
    reachFrom r models (name :: queue) = reachFrom r models queue := by
  rw [reachFrom]
  split
  · rfl
  · next m hm => exact absurd (h.symm.trans hm) (by simp)

theorem reachFrom_of_some {r : Registry} {models : List Model} {name : String} {queue : List String}
    {m : Model} (h : models.find? (·.name == name) = some m) :
    reachFrom r models (name :: queue) = (do
      let next ← m.references r
      let names ← reachFrom r (models.eraseP (·.name == name)) (queue ++ next)
      pure (name :: names)) := by
  rw [reachFrom]
  split
  · next hnone => exact absurd (h.symm.trans hnone) (by simp)
  · next m' hm =>
    obtain rfl := Option.some.inj (h.symm.trans hm)
    rfl

namespace Worklist

theorem push_pending (done queue : List String) (x : String) :
    push ⟨done, pending done queue⟩ x = ⟨done, pending done (queue ++ [x])⟩ := by
  have hnames : x ∈ done ++ pending done queue ↔ x ∈ done ∨ x ∈ queue := by
    rw [List.mem_append, mem_pending]
    tauto
  rw [push, names, pending_concat]
  simp only [List.contains_iff_mem, hnames]
  split_ifs <;> rfl

theorem pushAll_pending (done queue more : List String) :
    pushAll ⟨done, pending done queue⟩ more = ⟨done, pending done (queue ++ more)⟩ := by
  induction more generalizing queue with
  | nil => simp [pushAll]
  | cons x rest ih =>
    rw [pushAll, List.foldl_cons, push_pending, ← pushAll, ih, List.append_assoc]
    rfl

theorem start_eq (seeds : List String) : start seeds = ⟨[], pending [] seeds⟩ :=
  pushAll_pending [] [] seeds

/-! ## The two searches agree -/

/-- The models that are not done. -/
def fresh (r : Registry) (done : List String) : List Model := r.models.filter (·.name ∉ done)

theorem find?_fresh {r : Registry} {done : List String} {name : String} (h : name ∉ done) :
    (fresh r done).find? (·.name == name) = r.model? name := by
  rw [fresh, List.find?_filter, Registry.model?]
  congr 1
  funext m
  by_cases hm : m.name = name
  · simp [hm, h]
  · simp [hm]

theorem find?_fresh_of_mem {r : Registry} {done : List String} {name : String} (h : name ∈ done) :
    (fresh r done).find? (·.name == name) = none := by
  rw [List.find?_eq_none]
  intro m hm
  have hnot : m.name ∉ done := by simpa using (List.mem_filter.mp hm).2
  simp only [beq_iff_eq]
  rintro rfl
  exact hnot h

theorem eraseP_eq_filter {models : List Model} (h : (models.map (·.name)).Nodup) (name : String) :
    models.eraseP (·.name == name) = models.filter (·.name ≠ name) := by
  induction models with
  | nil => rfl
  | cons m rest ih =>
    rw [List.map_cons, List.nodup_cons] at h
    by_cases hm : m.name = name
    · subst hm
      rw [List.eraseP_cons_of_pos (by simp), List.filter_cons_of_neg (by simp), eq_comm,
        List.filter_eq_self]
      intro k hk
      have hne : k.name ≠ m.name := fun he => h.1 (he ▸ List.mem_map_of_mem hk)
      simpa using hne
    · rw [List.eraseP_cons_of_neg (by simpa using hm), List.filter_cons_of_pos (by simpa using hm),
        ih h.2]

theorem eraseP_fresh {r : Registry} (hr : r.names.Nodup) (done : List String) (name : String) :
    (fresh r done).eraseP (·.name == name) = fresh r (done ++ [name]) := by
  have hn : ((fresh r done).map (·.name)).Nodup := hr.sublist (List.filter_sublist.map _)
  rw [eraseP_eq_filter hn, fresh, List.filter_filter, fresh]
  apply List.filter_congr
  intro m _
  simp [and_comm]

theorem length_fresh_concat {r : Registry} (hr : r.names.Nodup) {done : List String} {name : String}
    {m : Model} (hm : (fresh r done).find? (·.name == name) = some m) :
    (fresh r (done ++ [name])).length + 1 = (fresh r done).length := by
  have hmem := List.mem_of_find?_eq_some hm
  have hpos := List.length_pos_of_mem hmem
  rw [← eraseP_fresh hr, List.length_eraseP_of_mem hmem (List.find?_some hm)]
  omega

theorem run_pending {r : Registry} (hr : r.names.Nodup) (k : Nat) (done queue : List String)
    (hq : ∀ name ∈ queue, name ∈ r.names) (hk : (fresh r done).length ≤ k) :
    run r k ⟨done, pending done queue⟩ =
      (reachFrom r (fresh r done) queue).map fun names => ⟨done ++ names, []⟩ := by
  -- The queue gets longer with every visit, but then there is one model less to visit.
  generalize hf : fresh r done = models at hk
  induction models, queue using reachFrom.induct generalizing k done with
  | case1 models =>
    rw [reachFrom]
    simp [run_of_todo_nil, pending, Except.map]
  | case2 models name queue hnone ih =>
    have hdone : name ∈ done := by
      by_contra hnot
      obtain ⟨m, hm⟩ := Option.isSome_iff_exists.mp (Registry.declares_iff.mpr (hq name (by simp)))
      rw [← hf, find?_fresh hnot, hm] at hnone
      exact absurd hnone (by simp)
    rw [pending_cons_of_mem hdone, reachFrom_of_none hnone]
    exact ih k done (fun x hx => hq x (by simp [hx])) hf hk
  | case3 models name queue m hm ih =>
    subst hf
    have hdone : name ∉ done := by
      intro hmem
      rw [find?_fresh_of_mem hmem] at hm
      exact absurd hm (by simp)
    have hlen := length_fresh_concat hr hm
    obtain ⟨k, rfl⟩ : ∃ j, k = j + 1 := ⟨k - 1, by omega⟩
    rw [pending_cons_of_not_mem hdone, run, step, reachFrom_of_some hm]
    simp only [← find?_fresh hdone, hm]
    cases hnext : m.references r with
    | error e => rfl
    | ok next =>
      have hall : ∀ x ∈ queue ++ next, x ∈ r.names := by
        intro x hx
        obtain ⟨hall, rfl⟩ := references_eq_ok.mp hnext
        rcases List.mem_append.mp hx with hx | hx
        · exact hq x (by simp [hx])
        · exact hall x hx
      have hrun := ih next k (done ++ [name]) hall (eraseP_fresh hr done name).symm
        (by rw [eraseP_fresh hr]; omega)
      simp only [bind, Except.bind, pure, Except.pure, pushAll_pending, hrun]
      cases reachFrom r _ (queue ++ next) with
      | error e => rfl
      | ok names => simp [Except.map]

theorem run_start {r : Registry} (hr : r.names.Nodup) {seeds : List String}
    (hseeds : ∀ name ∈ seeds, name ∈ r.names) {k : Nat} (hk : r.models.length ≤ k) :
    run r k (start seeds) = (reachFrom r r.models seeds).map fun names => ⟨names, []⟩ := by
  have hall : fresh r [] = r.models := by simp [fresh]
  rw [start_eq, run_pending hr k [] seeds hseeds (by rwa [hall]), hall]
  rfl

end Worklist

/-! ## What the search finds -/

/-- The worklist starts with `seeds` and ends with `names`. -/
structure Finds (r : Registry) (seeds names : List String) : Prop where
  run : ∀ k, r.models.length ≤ k →
    Worklist.run r k (Worklist.start seeds) = .ok ⟨names, []⟩
  nodup : names.Nodup
  mem_iff : ∀ name, name ∈ names ↔ r.Reachable seeds name
  declared : ∀ name ∈ names, name ∈ r.names

variable {r : Registry} {seeds names : List String}

theorem Finds.unique {names' : List String} (h : Finds r seeds names) (h' : Finds r seeds names') :
    names = names' := by
  have hrun := (h.run _ (Nat.le_refl _)).symm.trans (h'.run _ (Nat.le_refl _))
  exact (Worklist.mk.inj (Except.ok.inj hrun)).1

theorem reachFrom_eq_ok (hr : r.names.Nodup) (hseeds : ∀ name ∈ seeds, name ∈ r.names) :
    reachFrom r r.models seeds = .ok names ↔ Finds r seeds names := by
  constructor
  · intro h
    have hrun : ∀ k, r.models.length ≤ k →
        Worklist.run r k (Worklist.start seeds) = .ok ⟨names, []⟩ := by
      intro k hk
      rw [Worklist.run_start hr hseeds hk, h]
      rfl
    have hi := Worklist.Inv.start.run (hrun _ (Nat.le_refl _))
    refine ⟨hrun, ?_, fun name => hi.mem_done_iff hr rfl, hi.done_subset⟩
    simpa [Worklist.names] using hi.nodup
  · intro h
    have hrun := h.run _ (Nat.le_refl _)
    rw [Worklist.run_start hr hseeds (Nat.le_refl _)] at hrun
    cases hreach : reachFrom r r.models seeds with
    | error e => simp [hreach, Except.map] at hrun
    | ok found => simpa [hreach, Except.map] using hrun

theorem finds_of_run (hr : r.names.Nodup) (hseeds : ∀ name ∈ seeds, name ∈ r.names)
    (h : Worklist.run r r.models.length (Worklist.start seeds) = .ok ⟨names, []⟩) :
    Finds r seeds names := by
  rw [← reachFrom_eq_ok hr hseeds]
  rw [Worklist.run_start hr hseeds (Nat.le_refl _)] at h
  obtain ⟨found, hfound, heq⟩ := map_eq_ok.mp h
  rw [hfound, (Worklist.mk.inj heq).1]

theorem exists_finds (hr : r.names.Nodup) :
    (∃ names, Finds r seeds names) ↔ ∀ name, r.Reachable seeds name → name ∈ r.names := by
  constructor
  · rintro ⟨names, h⟩ name hreach
    exact h.declared name ((h.mem_iff name).mpr hreach)
  · intro hall
    have hseeds : ∀ name ∈ seeds, name ∈ r.names := fun name h => hall name (.seed h)
    obtain ⟨w, hw⟩ := Worklist.Inv.start.exists_run hall r.models.length
    rw [Worklist.run_start hr hseeds (Nat.le_refl _)] at hw
    cases hreach : reachFrom r r.models seeds with
    | error e => simp [hreach, Except.map] at hw
    | ok names => exact ⟨names, (reachFrom_eq_ok hr hseeds).mp hreach⟩

end RpcScaffold
