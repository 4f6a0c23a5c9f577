import Mathlib.Order.Lattice.Nat
import RpcScaffold.Proofs.Discovery.Acceptance

/-!
# The order of the models that a service reaches

The search takes names from the front of its list and appends what they refer to. So the list is
ordered by distance: no name is nearer to the seeds than a name before it.
-/

namespace RpcScaffold

/-! ## Chains of references -/

/-- A chain of `k` references leads from a seed to the name. -/
inductive Registry.ReachableIn (r : Registry) (seeds : List String) : Nat → String → Prop
  | seed {name : String} (h : name ∈ seeds) : r.ReachableIn seeds 0 name
  | step {k : Nat} {name target : String} (h : r.ReachableIn seeds k name)
    (hr : r.Refers name target) : r.ReachableIn seeds (k + 1) target

/-- The length of the shortest chain from a seed to the name. A name that no chain leads to gets 0
as well. -/
noncomputable def Registry.distance (r : Registry) (seeds : List String) (name : String) : Nat :=
  sInf {k | r.ReachableIn seeds k name}

section

variable {r : Registry} {seeds : List String} {name target : String} {k : Nat}

theorem Registry.Reachable.exists_reachableIn (h : r.Reachable seeds name) :
    ∃ k, r.ReachableIn seeds k name := by
  induction h with
  | seed h => exact ⟨0, .seed h⟩
  | step _ hr ih =>
    obtain ⟨k, hk⟩ := ih
    exact ⟨k + 1, .step hk hr⟩

theorem Registry.ReachableIn.distance_le (h : r.ReachableIn seeds k name) :
    r.distance seeds name ≤ k := Nat.sInf_le h

theorem Registry.Reachable.isLeast (h : r.Reachable seeds name) :
    IsLeast {k | r.ReachableIn seeds k name} (r.distance seeds name) :=
  ⟨Nat.sInf_mem h.exists_reachableIn, fun _ hk => Nat.sInf_le hk⟩

theorem Registry.distance_seed (h : name ∈ seeds) : r.distance seeds name = 0 :=
  Nat.le_zero.mp (ReachableIn.seed h).distance_le

end

namespace Worklist

/-! ## Names that are appended -/

theorem exists_pushAll (w : Worklist) (targets : List String) :
    ∃ new, pushAll w targets = ⟨w.done, w.todo ++ new⟩ ∧
      ∀ name ∈ new, name ∈ targets ∧ name ∉ w.names := by
  induction targets generalizing w with
  | nil => exact ⟨[], by simp [pushAll], by simp⟩
  | cons target rest ih =>
    obtain ⟨new, hnew, hall⟩ := ih (w.push target)
    rw [pushAll, List.foldl_cons, ← pushAll, hnew]
    by_cases hmem : target ∈ w.names
    · have hpush : w.push target = w := by simp [push, hmem]
      rw [hpush] at hall ⊢
      exact ⟨new, rfl, fun name hname => ⟨List.mem_cons_of_mem _ (hall name hname).1,
        (hall name hname).2⟩⟩
    · have hpush : w.push target = ⟨w.done, w.todo ++ [target]⟩ := by simp [push, hmem]
      refine ⟨target :: new, by rw [hpush]; simp, List.forall_mem_cons.mpr ⟨?_, ?_⟩⟩
      · exact ⟨List.mem_cons_self, hmem⟩
      · intro name hname
        obtain ⟨hrest, hnot⟩ := hall name hname
        rw [mem_names_push, not_or] at hnot
        exact ⟨List.mem_cons_of_mem _ hrest, hnot.1⟩

variable {r : Registry} {seeds : List String} {w w' : Worklist} {k : Nat}

/-- A step only appends. -/
theorem names_prefix_of_step (h : step r w = .ok w') : w.names <+: w'.names := by
  rcases step_eq_ok.mp h with ⟨-, rfl⟩ | ⟨next, rest, m, htodo, -, -, rfl⟩
  · exact List.prefix_rfl
  · obtain ⟨new, hnew, -⟩ := exists_pushAll ⟨w.done ++ [next], rest⟩ m.targets
    exact ⟨new, by simp [hnew, names, htodo]⟩

theorem names_prefix_of_run (h : run r k w = .ok w') : w.names <+: w'.names := by
  induction k generalizing w with
  | zero =>
    cases h
    exact List.prefix_rfl
  | succ k ih =>
    rw [run, bind_eq_ok] at h
    obtain ⟨v, hv, h⟩ := h
    exact (names_prefix_of_step hv).trans (ih h)

/-! ## The order of the list -/

/-- The list is ordered by distance, and no name on it is more than one reference farther than a
name to do. -/
structure Layered (r : Registry) (seeds : List String) (w : Worklist) : Prop where
  sorted : w.names.Pairwise fun a b => r.distance seeds a ≤ r.distance seeds b
  near : ∀ next ∈ w.todo, ∀ name ∈ w.names, r.distance seeds name ≤ r.distance seeds next + 1

theorem Layered.start : Layered r seeds (start seeds) := by
  have hzero : ∀ name ∈ (Worklist.start seeds).names, r.distance seeds name = 0 := by
    intro name hname
    rw [Worklist.start, mem_names_pushAll] at hname
    rcases hname with hname | hname
    · simp [names] at hname
    · exact Registry.distance_seed hname
  constructor
  · apply List.pairwise_of_forall_mem_list
    intro a ha b _
    rw [hzero a ha]
    exact Nat.zero_le _
  · intro next _ name hname
    rw [hzero name hname]
    exact Nat.zero_le _

section

variable (hl : Layered r seeds w) {next : String} {rest : List String}
  (htodo : w.todo = next :: rest)
include hl htodo

theorem Layered.distance_le_of_mem {name : String} (hname : name ∈ rest) :
    r.distance seeds next ≤ r.distance seeds name := by
  have hsorted := hl.sorted
  rw [names, htodo, List.pairwise_append, List.pairwise_cons] at hsorted
  exact hsorted.2.1.1 name hname

/-- What is nearer than the next name to do is done. -/
theorem Layered.mem_done_of_lt {name : String} (hname : name ∈ w.names)
    (hlt : r.distance seeds name < r.distance seeds next) : name ∈ w.done := by
  rw [names, htodo, List.mem_append, List.mem_cons] at hname
  rcases hname with hname | rfl | hname
  · exact hname
  · exact absurd hlt (Nat.lt_irrefl _)
  · exact absurd hlt (Nat.not_lt.mpr (hl.distance_le_of_mem htodo hname))

/-- A name that is no farther than the next one to do is on the list. On a chain to it, the name
before is nearer than that and done, so all it refers to was appended. -/
theorem Layered.mem_names_of_le (hi : Inv r seeds w) (hr : r.names.Nodup) {name : String} {k : Nat}
    (hk : r.ReachableIn seeds k name) (hle : k ≤ r.distance seeds next) : name ∈ w.names := by
  induction hk with
  | seed h => exact hi.seeded _ h
  | @step k name target hk hrefers ih =>
    have hdone : name ∈ w.done :=
      hl.mem_done_of_lt htodo (ih (by omega)) (hk.distance_le.trans_lt hle)
    obtain ⟨m, hm, ht⟩ := (Registry.refers_iff hr).mp hrefers
    obtain ⟨m', hm', hclosed⟩ := hi.closed name hdone
    obtain rfl := Option.some.inj (hm.symm.trans hm')
    exact (hclosed target ht).2

/-- A reference that leads off the list leads one farther. -/
theorem Layered.distance_of_new (hi : Inv r seeds w) (hr : r.names.Nodup) {name : String}
    (hrefers : r.Refers next name) (hnew : name ∉ w.names) :
    r.distance seeds name = r.distance seeds next + 1 := by
  have hnext : r.Reachable seeds next := hi.reachable next (by simp [names, htodo])
  have hname : r.Reachable seeds name := .step hnext hrefers
  have hchain : r.ReachableIn seeds (r.distance seeds next) next := hnext.isLeast.1
  apply Nat.le_antisymm
  · exact (hchain.step hrefers).distance_le
  · by_contra hlt
    exact hnew (hl.mem_names_of_le htodo hi hr hname.isLeast.1 (by omega))

end

theorem Layered.step (hl : Layered r seeds w) (hi : Inv r seeds w) (hr : r.names.Nodup)
    (h : Worklist.step r w = .ok w') : Layered r seeds w' := by
  rcases step_eq_ok.mp h with ⟨-, rfl⟩ | ⟨next, rest, m, htodo, hm, -, rfl⟩
  · exact hl
  · obtain ⟨new, hpush, hnew⟩ := exists_pushAll ⟨w.done ++ [next], rest⟩ m.targets
    have hnames : names ⟨w.done ++ [next], rest⟩ = w.names := by simp [names, htodo]
    have hnext : next ∈ w.todo := by simp [htodo]
    have hfar : ∀ name ∈ new, r.distance seeds name = r.distance seeds next + 1 := by
      intro name hname
      obtain ⟨htarget, hnot⟩ := hnew name hname
      exact hl.distance_of_new htodo hi hr (Registry.refers_of_model? hm htarget) (hnames ▸ hnot)
    have happend : names ⟨w.done ++ [next], rest ++ new⟩ = w.names ++ new := by
      simp [names, htodo]
    rw [hpush]
    constructor
    · rw [happend, List.pairwise_append]
      refine ⟨hl.sorted, List.pairwise_of_forall_mem_list ?_, ?_⟩
      · intro a ha b hb
        rw [hfar a ha, hfar b hb]
      · intro a ha b hb
        rw [hfar b hb]
        exact hl.near next hnext a ha
    · intro later hlater name hname
      have hle : r.distance seeds next ≤ r.distance seeds later := by
        rcases List.mem_append.mp hlater with hlater | hlater
        · exact hl.distance_le_of_mem htodo hlater
        · rw [hfar later hlater]
          exact Nat.le_succ _
      rw [happend, List.mem_append] at hname
      rcases hname with hname | hname
      · exact (hl.near next hnext name hname).trans (Nat.succ_le_succ hle)
      · rw [hfar name hname]
        exact Nat.succ_le_succ hle

theorem Layered.run (hl : Layered r seeds w) (hi : Inv r seeds w) (hr : r.names.Nodup)
    (h : Worklist.run r k w = .ok w') : Layered r seeds w' := by
  induction k generalizing w with
  | zero =>
    cases h
    exact hl
  | succ k ih =>
    rw [Worklist.run, bind_eq_ok] at h
    obtain ⟨v, hv, h⟩ := h
    exact ih (hl.step hi hr hv) (hi.step hv) h

end Worklist

/-! ## The order of a record -/

/-- The seeds come first, each where it first occurs, and then what is farther from them. -/
structure Registry.BreadthFirst (r : Registry) (seeds names : List String) : Prop where
  nodup : names.Nodup
  seeded : seeds.eraseDups <+: names
  least : ∀ name ∈ names, IsLeast {k | r.ReachableIn seeds k name} (r.distance seeds name)
  sorted : names.Pairwise fun a b => r.distance seeds a ≤ r.distance seeds b

theorem Finds.breadthFirst {r : Registry} {seeds names : List String} (hr : r.names.Nodup)
    (h : Finds r seeds names) : r.BreadthFirst seeds names := by
  have hrun := h.run _ (Nat.le_refl _)
  have hend : Worklist.names ⟨names, []⟩ = names := by simp [Worklist.names]
  have hstart : (Worklist.start seeds).names = seeds.eraseDups := by
    simp [Worklist.start_eq, Worklist.names, pending]
  have hprefix := Worklist.names_prefix_of_run hrun
  have hlayered := Worklist.Layered.start.run Worklist.Inv.start hr hrun
  refine ⟨h.nodup, ?_, fun name hname => ((h.mem_iff name).mp hname).isLeast, ?_⟩
  · rwa [hend, hstart] at hprefix
  · rw [← hend]
    exact hlayered.sorted

/-- What the search starts from, by the contracts of the record. -/
theorem IsRecord.seeds_eq_append {r : Registry} {n : Naming} {s : Service} {record : ServiceRecord}
    (h : IsRecord r n s record) :
    s.models ++ record.methods.flatMap (fun c => [c.input, c.output]) = s.seeds := by
  obtain ⟨i, hi, -, hcontracts, -⟩ := h.interface
  exact seeds_eq hi hcontracts

/-- A record lists the models that its service names, then what goes in and out of the methods, and
then all else, the nearest first. -/
theorem referencedModels_breadthFirst {r : Registry} {n : Naming} {g : ServiceGraph}
    (h : discover r n = .ok g) :
    List.Forall₂ (fun s record => record.serviceName = s.name ∧
      r.BreadthFirst (s.models ++ record.methods.flatMap fun c => [c.input, c.output])
        record.referencedModels) r.markedServices g.records := by
  have hd := discovers_of_ok h
  refine hd.records.imp fun s record hrecord => ⟨hrecord.serviceName, ?_⟩
  rw [hrecord.seeds_eq_append]
  exact hrecord.finds.breadthFirst hd.distinctNames

theorem referencedModels_breadthFirst_pingPong : ∃ g, discover (pingPong ["Echo"]) {} = .ok g ∧
    ∃ record ∈ g.records, record.referencedModels = ["Ping", "Pong"] ∧
      (pingPong ["Echo"]).BreadthFirst ["Ping", "Ping"] record.referencedModels := by
  obtain ⟨g, hg, hrecords⟩ := exists_discover_pingPong
  have hall := referencedModels_breadthFirst hg
  rw [hrecords] at hall
  obtain ⟨s, hs, -, hfirst⟩ := exists_left hall (List.mem_singleton_self _)
  have hmodels : s.models = [] := by
    rw [List.mem_singleton.mp (List.mem_filter.mp hs).1]
  rw [hmodels] at hfirst
  exact ⟨g, hg, _, hrecords ▸ List.mem_singleton_self _, rfl, hfirst⟩

end RpcScaffold
