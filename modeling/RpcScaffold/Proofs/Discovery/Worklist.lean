import Mathlib.Data.List.Perm.Subperm
import RpcScaffold.Proofs.Discovery.Models

/-!
# The search with one growing list

A list of names is queue and result at once. The names before a cursor are done, those from it on
are to do, and each step appends what the name at the cursor refers to. `Reach.lean` shows that the
search of `Graph/Reach.lean` finds the same names in the same order.
-/

namespace RpcScaffold

/-! ## References -/

/-- The models that the fields refer to, in order. -/
def Model.targets (m : Model) : List String := m.fields.filterMap (·.type.referencedModel?)

theorem Model.mem_targets {m : Model} {target : String} :
    target ∈ m.targets ↔ ∃ f ∈ m.fields, f.type.referencedModel? = some target := by
  simp [Model.targets]

theorem references_eq_ok {m : Model} {r : Registry} {next : List String} :
    m.references r = .ok next ↔ (∀ target ∈ m.targets, target ∈ r.names) ∧ next = m.targets := by
  unfold Model.references
  simp only [Model.mem_targets]
  split
  · next f hf =>
    have hm := List.mem_of_find?_eq_some hf
    have hp := List.find?_some hf
    simp only [Option.any_eq_true_iff_get, Bool.not_eq_true', reduceCtorEq, false_iff] at hp ⊢
    obtain ⟨hs, hnot⟩ := hp
    rintro ⟨hall, -⟩
    have hmem := hall _ ⟨f, hm, (Option.some_get hs).symm⟩
    rw [Registry.declares_iff.mpr hmem] at hnot
    exact absurd hnot (by simp)
  · next hf =>
    rw [List.find?_eq_none] at hf
    constructor
    · rintro ⟨⟩
      refine ⟨?_, rfl⟩
      rintro target ⟨f, hm, ht⟩
      have := hf f hm
      simpa [ht, Registry.declares_iff] using this
    · rintro ⟨-, rfl⟩
      rfl

theorem Registry.refers_iff {r : Registry} (hr : r.names.Nodup) {name target : String} :
    r.Refers name target ↔ ∃ m, r.model? name = some m ∧ target ∈ m.targets := by
  simp only [Registry.Refers, Registry.model?_eq_some hr, Model.mem_targets, and_assoc]

theorem Registry.refers_of_model? {r : Registry} {name target : String} {m : Model}
    (hm : r.model? name = some m) (ht : target ∈ m.targets) : r.Refers name target :=
  ⟨m, List.mem_of_find?_eq_some hm, Registry.name_of_model? hm, Model.mem_targets.mp ht⟩

/-! ## The list -/

structure Worklist where
  done : List String
  todo : List String
  deriving Repr, DecidableEq

namespace Worklist

def names (w : Worklist) : List String := w.done ++ w.todo

def push (w : Worklist) (name : String) : Worklist :=
  if w.names.contains name then w else { w with todo := w.todo ++ [name] }

def pushAll (w : Worklist) (names : List String) : Worklist := names.foldl push w

def start (seeds : List String) : Worklist := pushAll ⟨[], []⟩ seeds

/-- Moves the cursor over one name. At the end of the list nothing happens. -/
def step (r : Registry) (w : Worklist) : Except Failure Worklist :=
  match w.todo with
  | [] => .ok w
  | name :: rest =>
    match r.model? name with
    | none => .error (.invariant s!"model {name} vanished")
    | some m => do
      let next ← m.references r
      pure (pushAll ⟨w.done ++ [name], rest⟩ next)

def run (r : Registry) : Nat → Worklist → Except Failure Worklist
  | 0, w => .ok w
  | k + 1, w => do
    let w ← step r w
    run r k w

/-! ## Appending names -/

variable {w w' : Worklist}

@[simp] theorem push_done (name : String) : (w.push name).done = w.done := by
  unfold push
  split <;> rfl

@[simp] theorem pushAll_done (names : List String) : (w.pushAll names).done = w.done := by
  induction names generalizing w with
  | nil => rfl
  | cons name rest ih => exact (ih (w := w.push name)).trans (push_done name)

theorem mem_names_push {x name : String} : x ∈ (w.push name).names ↔ x ∈ w.names ∨ x = name := by
  unfold push
  split_ifs with h
  · have hname : name ∈ w.names := by simpa using h
    constructor
    · exact .inl
    · rintro (hx | rfl)
      · exact hx
      · exact hname
  · simp [names, or_assoc]

theorem mem_names_pushAll {x : String} {names : List String} :
    x ∈ (w.pushAll names).names ↔ x ∈ w.names ∨ x ∈ names := by
  induction names generalizing w with
  | nil => simp [pushAll]
  | cons name rest ih =>
    rw [pushAll, List.foldl_cons, ← pushAll, ih, mem_names_push, List.mem_cons, or_assoc]

theorem nodup_push {name : String} (h : w.names.Nodup) : (w.push name).names.Nodup := by
  unfold push
  split_ifs with hname
  · exact h
  · rw [names, ← List.append_assoc, List.nodup_append']
    refine ⟨h, by simp, ?_⟩
    simpa [names] using hname

theorem nodup_pushAll {names : List String} (h : w.names.Nodup) : (w.pushAll names).names.Nodup := by
  induction names generalizing w with
  | nil => exact h
  | cons name rest ih => exact ih (nodup_push h)

/-! ## Steps -/

theorem step_eq_ok {r : Registry} :
    step r w = .ok w' ↔
      (w.todo = [] ∧ w' = w) ∨
      ∃ name rest m, w.todo = name :: rest ∧ r.model? name = some m ∧
        (∀ target ∈ m.targets, target ∈ r.names) ∧
        w' = pushAll ⟨w.done ++ [name], rest⟩ m.targets := by
  unfold step
  cases htodo : w.todo with
  | nil => simp [eq_comm]
  | cons name rest =>
    cases hm : r.model? name with
    | none => simp [hm]
    | some m =>
      simp only [hm, bind_eq_ok, references_eq_ok, pure_eq_ok]
      constructor
      · rintro ⟨next, ⟨hall, rfl⟩, rfl⟩
        exact .inr ⟨name, rest, m, rfl, hm, hall, rfl⟩
      · rintro (⟨h, -⟩ | ⟨name', rest', m', heq, hm', hall, rfl⟩)
        · exact absurd h (by simp)
        · obtain ⟨rfl, rfl⟩ := List.cons.inj heq
          obtain rfl := Option.some.inj (hm.symm.trans hm')
          exact ⟨_, ⟨hall, rfl⟩, rfl⟩

theorem run_of_todo_nil {r : Registry} (h : w.todo = []) (k : Nat) : run r k w = .ok w := by
  induction k with
  | zero => rfl
  | succ k ih =>
    have hstep : step r w = .ok w := step_eq_ok.mpr (.inl ⟨h, rfl⟩)
    rw [run, hstep]
    exact ih

/-! ## The invariant -/

/-- Holds between any two steps. What is done is declared, and all it refers to is on the list. -/
structure Inv (r : Registry) (seeds : List String) (w : Worklist) : Prop where
  nodup : w.names.Nodup
  reachable : ∀ name ∈ w.names, r.Reachable seeds name
  seeded : ∀ name ∈ seeds, name ∈ w.names
  closed : ∀ name ∈ w.done, ∃ m, r.model? name = some m ∧
    ∀ target ∈ m.targets, target ∈ r.names ∧ target ∈ w.names

variable {r : Registry} {seeds : List String}

theorem Inv.start : Inv r seeds (start seeds) where
  nodup := nodup_pushAll (by simp [names])
  reachable name h := by
    rw [Worklist.start, mem_names_pushAll] at h
    rcases h with h | h
    · simp [names] at h
    · exact .seed h
  seeded name h := by
    rw [Worklist.start, mem_names_pushAll]
    exact .inr h
  closed name h := by simp [Worklist.start] at h

theorem Inv.step (hi : Inv r seeds w) (h : step r w = .ok w') : Inv r seeds w' := by
  rcases step_eq_ok.mp h with ⟨-, rfl⟩ | ⟨name, rest, m, htodo, hm, hall, rfl⟩
  · exact hi
  · have hnames : names ⟨w.done ++ [name], rest⟩ = w.names := by simp [names, htodo]
    have hname : name ∈ w.names := by simp [names, htodo]
    constructor
    · apply nodup_pushAll
      rw [hnames]
      exact hi.nodup
    · intro x hx
      rw [mem_names_pushAll, hnames] at hx
      rcases hx with hx | hx
      · exact hi.reachable x hx
      · exact .step (hi.reachable name hname) (Registry.refers_of_model? hm hx)
    · intro x hx
      rw [mem_names_pushAll, hnames]
      exact .inl (hi.seeded x hx)
    · intro x hx
      simp only [mem_names_pushAll, hnames]
      rw [pushAll_done, List.mem_append, List.mem_singleton] at hx
      rcases hx with hx | rfl
      · obtain ⟨k, hk, hkall⟩ := hi.closed x hx
        exact ⟨k, hk, fun t ht => ⟨(hkall t ht).1, .inl (hkall t ht).2⟩⟩
      · exact ⟨m, hm, fun t ht => ⟨hall t ht, .inr ht⟩⟩

theorem Inv.run {k : Nat} (hi : Inv r seeds w) (h : run r k w = .ok w') : Inv r seeds w' := by
  induction k generalizing w with
  | zero =>
    cases h
    exact hi
  | succ k ih =>
    rw [Worklist.run, bind_eq_ok] at h
    obtain ⟨v, hv, h⟩ := h
    exact ih (hi.step hv) h

/-! ## The end of the list -/

/-- A step that is not at the end moves the cursor. -/
theorem length_done_of_run {k : Nat} (h : run r k w = .ok w') :
    w'.todo = [] ∨ w'.done.length = w.done.length + k := by
  induction k generalizing w with
  | zero =>
    cases h
    exact .inr rfl
  | succ k ih =>
    rw [run, bind_eq_ok] at h
    obtain ⟨v, hv, h⟩ := h
    rcases step_eq_ok.mp hv with ⟨htodo, rfl⟩ | ⟨name, rest, m, -, -, -, rfl⟩
    · rw [run_of_todo_nil htodo] at h
      cases h
      exact .inl htodo
    · rcases ih h with hend | hlen
      · exact .inl hend
      · right
        rw [hlen, pushAll_done, List.length_append, List.length_singleton]
        omega

theorem Inv.done_subset (hi : Inv r seeds w) : w.done ⊆ r.names := by
  intro name h
  obtain ⟨m, hm, -⟩ := hi.closed name h
  rw [← Registry.declares_iff, Registry.declares, hm]
  rfl

/-- Every name is done once and is declared, so the cursor gets no further than there are models. -/
theorem Inv.length_done_le (hi : Inv r seeds w) : w.done.length ≤ r.models.length := by
  have hnodup : w.done.Nodup := (List.nodup_append.mp hi.nodup).1
  have hle := (List.subperm_of_subset hnodup hi.done_subset).length_le
  rwa [Registry.names, List.length_map] at hle

/-- On every registry the run is over, with or without a failure, after a step for each model. -/
theorem todo_eq_nil_of_run {k : Nat} (hk : r.models.length < k) (h : run r k (start seeds) = .ok w) :
    w.todo = [] := by
  have hle := (Inv.start.run h).length_done_le
  rcases length_done_of_run h with hend | hlen
  · exact hend
  · omega

/-! ## What a run finds -/

theorem Inv.mem_done_iff (hr : r.names.Nodup) (hi : Inv r seeds w) (hend : w.todo = [])
    {name : String} : name ∈ w.done ↔ r.Reachable seeds name := by
  have hnames : w.names = w.done := by rw [names, hend, List.append_nil]
  constructor
  · intro h
    exact hi.reachable name (hnames ▸ h)
  · intro h
    induction h with
    | seed h => exact hnames ▸ hi.seeded _ h
    | step _ hrefers ih =>
      obtain ⟨m, hm, ht⟩ := (Registry.refers_iff hr).mp hrefers
      obtain ⟨k, hk, hall⟩ := hi.closed _ ih
      obtain rfl := Option.some.inj (hm.symm.trans hk)
      exact hnames ▸ (hall _ ht).2

/-- No step fails if all that is reachable is declared. -/
theorem Inv.exists_run (hi : Inv r seeds w)
    (hall : ∀ name, r.Reachable seeds name → name ∈ r.names) (k : Nat) :
    ∃ w', Worklist.run r k w = .ok w' := by
  induction k generalizing w with
  | zero => exact ⟨w, rfl⟩
  | succ k ih =>
    obtain ⟨v, hv⟩ : ∃ v, Worklist.step r w = .ok v := by
      cases htodo : w.todo with
      | nil => exact ⟨w, step_eq_ok.mpr (.inl ⟨htodo, rfl⟩)⟩
      | cons name rest =>
        have hname := hi.reachable name (by simp [names, htodo])
        obtain ⟨m, hm⟩ := Option.isSome_iff_exists.mp (Registry.declares_iff.mpr (hall name hname))
        have htargets : ∀ target ∈ m.targets, target ∈ r.names := fun target ht =>
          hall target (.step hname (Registry.refers_of_model? hm ht))
        exact ⟨_, step_eq_ok.mpr (.inr ⟨name, rest, m, htodo, hm, htargets, rfl⟩)⟩
    obtain ⟨w', hw'⟩ := ih (hi.step hv)
    refine ⟨w', ?_⟩
    rw [Worklist.run, bind_eq_ok]
    exact ⟨v, hv, hw'⟩

end Worklist

end RpcScaffold
