import RpcScaffold.Output.Plan
import RpcScaffold.Proofs.Files.Paths
import RpcScaffold.Proofs.Success

/-!
# What is planned

There is a plan exactly if every path stays inside the output root.
-/

namespace RpcScaffold.WritePlan

open RpcScaffold.Path

/-- The paths that are checked before anything is done. -/
def checkedPaths (b : Bundle) (l : Layout) : List String := b.paths ++ l.manifestFile :: l.resetDirs

/-- The paths of all that is written. -/
def writtenPaths (b : Bundle) (l : Layout) : List String := b.paths ++ [l.manifestFile]

/-- Where artifacts go, with their texts. -/
def targetsOf (root : String) (artifacts : List (String × Artifact)) : List (String × String) :=
  artifacts.map fun e => (join root e.1, e.2.text)

/-- Where the manifest goes, with its text. -/
def manifestOf (root : String) (b : Bundle) (l : Layout) (package : String) : String × String :=
  (join root l.manifestFile, (Manifest.ofBundle b package).text)

/-- The plan of a write whose paths all stay inside. -/
def planOf (root : String) (b : Bundle) (l : Layout) (package : String) : WritePlan where
  targets := targetsOf root b.toList
  manifestPath := (manifestOf root b l package).1
  manifest := (manifestOf root b l package).2
  resets := l.resetDirs.map (join root)

@[simp] theorem planOf_manifestPath (root : String) (b : Bundle) (l : Layout) (package : String) :
    (planOf root b l package).manifestPath = join root l.manifestFile := rfl

@[simp] theorem planOf_targets (root : String) (b : Bundle) (l : Layout) (package : String) :
    (planOf root b l package).targets = targetsOf root b.toList := rfl

theorem length_targetsOf (root : String) (b : Bundle) : (targetsOf root b.toList).length = b.size :=
  List.length_map _

/-- All writes, in their order. -/
def writes (p : WritePlan) : List (String × String) := p.targets ++ [(p.manifestPath, p.manifest)]

theorem writes_planOf (root : String) (b : Bundle) (l : Layout) (package : String) :
    (planOf root b l package).writes = targetsOf root b.toList ++ [manifestOf root b l package] := rfl

theorem map_writes (root : String) (b : Bundle) (l : Layout) (package : String) :
    (planOf root b l package).writes.map (·.1) = (writtenPaths b l).map (join root) := by
  rw [writes_planOf, writtenPaths, List.map_append, List.map_append, targetsOf, Bundle.paths,
    NameMap.names, List.map_map, List.map_map]
  rfl

theorem exists_path {root : String} {b : Bundle} {l : Layout} {package : String}
    {w : String × String} (hw : w ∈ (planOf root b l package).writes) :
    ∃ path ∈ writtenPaths b l, w.1 = join root path := by
  have hmem := List.mem_map_of_mem (f := (·.1)) hw
  rw [map_writes] at hmem
  obtain ⟨path, hpath, heq⟩ := List.mem_map.mp hmem
  exact ⟨path, hpath, heq.symm⟩

theorem exists_write {root : String} {b : Bundle} {l : Layout} (package : String) {path : String}
    (hpath : path ∈ writtenPaths b l) :
    ∃ w ∈ (planOf root b l package).writes, w.1 = join root path := by
  have hmem := List.mem_map_of_mem (f := join root) hpath
  rw [← map_writes root b l package] at hmem
  exact List.mem_map.mp hmem

theorem below_eq (root path : String) : below root path =
    if staysInside path then .ok (join root path) else .error (.outside path) := rfl

/-- The first path that does not stay inside ends a round of checks. -/
theorem mapM_below {α β : Type} {f : α → Except FileFailure β} {path : α → String} {g : α → β}
    (hf : ∀ x, f x = if staysInside (path x) then .ok (g x) else .error (.outside (path x)))
    (xs : List α) : ((∀ x ∈ xs, staysInside (path x) = true) ∧ xs.mapM f = .ok (xs.map g)) ∨
      ∃ x ∈ xs, staysInside (path x) ≠ true ∧ xs.mapM f = .error (.outside (path x)) := by
  induction xs with
  | nil => exact .inl ⟨by simp, rfl⟩
  | cons x rest ih =>
    rw [List.mapM_cons, hf]
    by_cases hx : staysInside (path x) = true
    · rw [if_pos hx]
      obtain ⟨hrest, heq⟩ | ⟨y, hy, hout, heq⟩ := ih
      · exact .inl ⟨List.forall_mem_cons.mpr ⟨hx, hrest⟩, by rw [heq]; rfl⟩
      · exact .inr ⟨y, List.mem_cons_of_mem _ hy, hout, by rw [heq]; rfl⟩
    · rw [if_neg hx]
      exact .inr ⟨x, List.mem_cons_self, hx, rfl⟩

theorem ofBundle_cases (root : String) (b : Bundle) (l : Layout) (package : String) :
    ((∀ path ∈ checkedPaths b l, staysInside path = true) ∧
      ofBundle root b l package = .ok (planOf root b l package)) ∨
      ∃ path ∈ checkedPaths b l, staysInside path ≠ true ∧
        ofBundle root b l package = .error (.outside path) := by
  have htarget : ∀ e : String × Artifact, (do
      let path ← below root e.1
      pure (path, e.2.text) : Except FileFailure (String × String)) =
      if staysInside e.1 then .ok (join root e.1, e.2.text) else .error (.outside e.1) := by
    intro e
    rw [below_eq]
    split_ifs <;> rfl
  rw [ofBundle]
  obtain ⟨hpaths, htargets⟩ | ⟨e, he, hout, htargets⟩ := mapM_below htarget b.toList
  · by_cases hmanifest : staysInside l.manifestFile = true
    · obtain ⟨hresets, heq⟩ | ⟨d, hd, hout, heq⟩ :=
        mapM_below (fun d => below_eq root d) l.resetDirs
      · refine .inl ⟨?_, ?_⟩
        · rw [checkedPaths, List.forall_mem_append, List.forall_mem_cons]
          exact ⟨List.forall_mem_map.mpr hpaths, hmanifest, hresets⟩
        · rw [htargets, below_eq, if_pos hmanifest, heq]
          rfl
      · refine .inr ⟨d, by simp [checkedPaths, hd], hout, ?_⟩
        rw [htargets, below_eq, if_pos hmanifest, heq]
        rfl
    · refine .inr ⟨l.manifestFile, by simp [checkedPaths], hmanifest, ?_⟩
      rw [htargets, below_eq, if_neg hmanifest]
      rfl
  · refine .inr ⟨e.1, List.mem_append_left _ (List.mem_map_of_mem he), hout, ?_⟩
    rw [htargets]
    rfl

end RpcScaffold.WritePlan
