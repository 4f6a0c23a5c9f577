import Mathlib.Data.List.Duplicate
import RpcScaffold.Proofs.Free
import RpcScaffold.Proofs.NameMap
import RpcScaffold.Proofs.Success
import RpcScaffold.Pipeline.Stages

/-! # Staging artifacts -/

namespace RpcScaffold

/-! ## Bundles -/

namespace Bundle

/-- The failure of a second artifact at `path`. -/
def collision (path : String) : Failure := .invariant s!"two artifacts staged at {path}"

/-- Stages the artifacts one after the other. -/
def insertAll (b : Bundle) (artifacts : List (String × Artifact)) : Except Failure Bundle :=
  artifacts.foldlM (fun b a => b.insert a.1 a.2.kind a.2.text) b

/-- The paths with an artifact are those of `taken`. -/
def Holds (b : Bundle) (taken : List String) : Prop :=
  ∀ path, b.artifacts.contains path = true ↔ path ∈ taken

variable {b : Bundle} {taken : List String}

theorem holds_empty : Holds {} [] := by
  intro path
  simp [NameMap.contains]

theorem holds_paths (b : Bundle) : b.Holds b.paths := by
  intro path
  rw [NameMap.contains, NameMap.get?, List.lookup_isSome_iff, paths, NameMap.names, List.mem_map]
  simp only [beq_iff_eq, eq_comm (a := path)]

theorem Holds.insert_of_mem (h : b.Holds taken) {path : String} (hpath : path ∈ taken)
    (kind : ArtifactKind) (text : String) : b.insert path kind text = .error (collision path) := by
  rw [Bundle.insert, if_pos ((h path).mpr hpath), collision]

theorem Holds.insert_of_not_mem (h : b.Holds taken) {path : String} (hpath : path ∉ taken)
    (kind : ArtifactKind) (text : String) :
    ∃ b', b.insert path kind text = .ok b' ∧ b'.Holds (path :: taken) := by
  have hfree : ¬ b.artifacts.contains path = true := by rwa [h path]
  refine ⟨⟨b.artifacts.insert path ⟨kind, text⟩⟩, by rw [Bundle.insert, if_neg hfree], ?_⟩
  intro other
  rw [NameMap.contains, NameMap.get?_insert, List.mem_cons, ← h other, NameMap.contains]
  split_ifs with hother
  · simp [hother]
  · simp [hother]

theorem insertAll_cons (a : String × Artifact) (rest : List (String × Artifact)) :
    b.insertAll (a :: rest) = b.insert a.1 a.2.kind a.2.text >>= fun b' => b'.insertAll rest := rfl

theorem insertAll_append (as bs : List (String × Artifact)) :
    b.insertAll (as ++ bs) = b.insertAll as >>= fun b' => b'.insertAll bs := by
  rw [insertAll, List.foldlM_append]
  rfl

/-- Some artifacts, one more, and what is made of the bundle. -/
theorem map_insertAll_concat {α : Type} (artifacts : List (String × Artifact)) (path : String)
    (kind : ArtifactKind) (text : String) (f : Bundle → α) :
    (b.insertAll (artifacts ++ [(path, ⟨kind, text⟩)])).map f =
      b.insertAll artifacts >>= fun b => b.insert path kind text >>= fun b => pure (f b) := by
  rw [insertAll_append]
  cases b.insertAll artifacts with
  | error e => rfl
  | ok b' =>
    have hone : b'.insertAll [(path, ⟨kind, text⟩)] = b'.insert path kind text := by
      rw [insertAll_cons]
      cases b'.insert path kind text with
      | error e => rfl
      | ok b'' => rfl
    change (b'.insertAll [(path, ⟨kind, text⟩)]).map f =
      b'.insert path kind text >>= fun b => pure (f b)
    rw [hone]
    cases b'.insert path kind text with
    | error e => rfl
    | ok b'' => rfl

theorem insertAll_map {α : Type} (f : α → String × Artifact) (xs : List α) :
    b.insertAll (xs.map f) =
      xs.foldlM (fun b x => b.insert (f x).1 (f x).2.kind (f x).2.text) b := by
  rw [insertAll, List.foldlM_map]

theorem insert_eq_ok {b' : Bundle} {path : String} {kind : ArtifactKind} {text : String} :
    b.insert path kind text = .ok b' ↔
      b.get? path = none ∧ b' = ⟨b.artifacts.insert path ⟨kind, text⟩⟩ := by
  unfold Bundle.insert Bundle.get? NameMap.contains
  cases b.artifacts.get? path with
  | none => simp [eq_comm]
  | some a => simp

theorem get?_insert {path : String} {kind : ArtifactKind} {text other : String} :
    (⟨b.artifacts.insert path ⟨kind, text⟩⟩ : Bundle).get? other =
      if other = path then some ⟨kind, text⟩ else b.get? other :=
  b.artifacts.get?_insert path other ⟨kind, text⟩

/-- Artifacts may be staged in any order. -/
theorem insertAll_perm {as bs : List (String × Artifact)} (h : as.Perm bs) {b b' : Bundle}
    (hok : b.insertAll as = .ok b') : b.insertAll bs = .ok b' := by
  induction h generalizing b b' with
  | nil => exact hok
  | cons x _ ih =>
    rw [insertAll_cons, bind_eq_ok] at hok ⊢
    obtain ⟨u, hu, hrest⟩ := hok
    exact ⟨u, hu, ih hrest⟩
  | swap x y rest =>
    simp only [insertAll_cons, bind_eq_ok, insert_eq_ok] at hok ⊢
    obtain ⟨_, ⟨hy, rfl⟩, _, ⟨hx, rfl⟩, hrest⟩ := hok
    rw [get?_insert] at hx
    split_ifs at hx with hne
    refine ⟨_, ⟨hx, rfl⟩, _, ⟨?_, rfl⟩, ?_⟩
    · rw [get?_insert, if_neg fun heq => hne heq.symm, hy]
    · rw [← hrest]
      simp only [NameMap.insert, insertEntry_comm hne]
  | trans _ _ ih ih' => exact ih' (ih hok)

/-- What is staged is what was there and what was added. -/
theorem get?_insertAll {b' : Bundle} {artifacts : List (String × Artifact)}
    (h : b.insertAll artifacts = .ok b') {path : String} {a : Artifact} :
    b'.get? path = some a ↔ b.get? path = some a ∨ (path, a) ∈ artifacts := by
  induction artifacts generalizing b with
  | nil =>
    cases h
    simp
  | cons first rest ih =>
    rw [insertAll_cons, bind_eq_ok] at h
    obtain ⟨v, hv, hrest⟩ := h
    obtain ⟨hfree, rfl⟩ := insert_eq_ok.mp hv
    rw [ih hrest, List.mem_cons, get?_insert, Prod.ext_iff]
    by_cases hpath : path = first.1
    · subst hpath
      simp [hfree, eq_comm]
    · simp [hpath]

theorem toList_insertAll {b' : Bundle} {artifacts : List (String × Artifact)}
    (h : b.insertAll artifacts = .ok b') : b'.toList.Perm (b.toList ++ artifacts) := by
  induction artifacts generalizing b with
  | nil =>
    cases h
    simp
  | cons first rest ih =>
    rw [insertAll_cons, bind_eq_ok] at h
    obtain ⟨v, hv, hrest⟩ := h
    obtain ⟨hfree, rfl⟩ := insert_eq_ok.mp hv
    have hfirst := insertEntry_perm hfree (Artifact.mk first.2.kind first.2.text)
    exact (ih hrest).trans ((hfirst.append_right rest).trans List.perm_middle.symm)

/-- All artifacts are staged, or the first path that is not free ends the run. -/
theorem insertAll_cases (h : b.Holds taken) (artifacts : List (String × Artifact)) :
    (Free taken (artifacts.map (·.1)) ∧ ∃ b', b.insertAll artifacts = .ok b') ∨
      ∃ path, List.Duplicate path (taken ++ artifacts.map (·.1)) ∧
        b.insertAll artifacts = .error (collision path) := by
  induction artifacts generalizing b taken with
  | nil => exact .inl ⟨free_nil, b, rfl⟩
  | cons a rest ih =>
    rw [insertAll_cons]
    by_cases hpath : a.1 ∈ taken
    · refine .inr ⟨a.1, ?_, by rw [h.insert_of_mem hpath]; rfl⟩
      have := List.count_pos_iff.mpr hpath
      rw [List.duplicate_iff_two_le_count, List.count_append, List.map_cons, List.count_cons_self]
      omega
    · obtain ⟨b', hb', hholds⟩ := h.insert_of_not_mem hpath a.2.kind a.2.text
      have hbind : (b.insert a.1 a.2.kind a.2.text >>= fun b' => b'.insertAll rest) =
          b'.insertAll rest := by
        rw [hb']
        rfl
      rw [hbind]
      rcases ih hholds with ⟨hfree, hok⟩ | ⟨path, hdup, herr⟩
      · exact .inl ⟨free_cons.mpr ⟨hpath, hfree⟩, hok⟩
      · refine .inr ⟨path, ?_, herr⟩
        rw [List.duplicate_iff_two_le_count] at hdup ⊢
        rwa [List.map_cons, List.perm_middle.count_eq]

/-- All artifacts are staged exactly if every path is free when its artifact comes. -/
theorem exists_insertAll_iff (h : b.Holds taken) {artifacts : List (String × Artifact)} :
    (∃ b', b.insertAll artifacts = .ok b') ↔ Free taken (artifacts.map (·.1)) := by
  induction artifacts generalizing b taken with
  | nil => exact iff_of_true ⟨b, rfl⟩ free_nil
  | cons a rest ih =>
    simp only [insertAll_cons, bind_eq_ok, List.map_cons, free_cons]
    by_cases hpath : a.1 ∈ taken
    · simp [h.insert_of_mem hpath, hpath]
    · obtain ⟨u, hu, hholds⟩ := h.insert_of_not_mem hpath a.2.kind a.2.text
      rw [← ih hholds, hu]
      simp [hpath]

theorem insertAll_empty_eq_ok {artifacts : List (String × Artifact)} :
    (∃ b, ({} : Bundle).insertAll artifacts = .ok b) ↔ (artifacts.map (·.1)).Nodup :=
  (exists_insertAll_iff holds_empty).trans free_of_nil

theorem insertAll_empty_eq_error {artifacts : List (String × Artifact)} {e : Failure}
    (h : ({} : Bundle).insertAll artifacts = .error e) :
    ∃ path, e = collision path ∧ List.Duplicate path (artifacts.map (·.1)) := by
  rcases insertAll_cases holds_empty artifacts with ⟨-, b, hb⟩ | ⟨path, hdup, herr⟩
  · rw [hb] at h
    cases h
  · rw [herr] at h
    cases h
    exact ⟨path, rfl, hdup⟩

end Bundle

end RpcScaffold
