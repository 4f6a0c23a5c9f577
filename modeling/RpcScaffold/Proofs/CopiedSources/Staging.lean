import RpcScaffold.Proofs.Files.Looking
import RpcScaffold.Proofs.Generation.Staging
import RpcScaffold.Proofs.SourceText.Copies

/-!
# What is staged while sources are collected

Whatever a run comes across, the bundle only ever gains copies: texts without markers, each under
its names below the target. What such a copy keeps, the whole run keeps.
-/

namespace RpcScaffold.CopiedSources

open FileProgram FileAction

/-- Where the source under the names is copied to. -/
def copyPath (target : String) (names : List String) : String :=
  Path.inDirectory target ("/".intercalate names)

variable {t t' : FileTree} {directory target : String} {b b' : Bundle}

theorem insert_of_stage {f : Found} (hr : (stage target b f).run.Runs t (.ok b') t') :
    ∃ text, b.insert (copyPath target f.names) .copiedSource (SourceText.stripMarkers text) =
      .ok b' := by
  obtain ⟨text, u, -, hrest⟩ := runs_bind_ok.mp hr
  have hcopied := mapError_eq_ok.mp (FileProgram.runs_pure.mp hrest).1.symm
  obtain ⟨prepared, hprepared, hinsert⟩ := bind_eq_ok.mp hcopied
  rw [SourceText.prepare] at hprepared
  split_ifs at hprepared
  rw [← Except.ok.inj hprepared] at hinsert
  exact ⟨text, hinsert⟩

section

-- `P` is about the number of copies so far and the bundle with them.
variable {P : Nat → Bundle → Prop} {r : Except FileFailure Nat}

theorem keeps_failure {n : Nat} (hb : P n b) {failure : FileFailure}
    (hr : (pure (.error failure, b) : FileProgram (Except FileFailure Nat × Bundle)).Runs t
      (r, b') t') : ∃ n, P n b' ∧ ∀ m, r = .ok m → m = n := by
  obtain ⟨rfl, rfl⟩ := Prod.mk.inj (FileProgram.runs_pure.mp hr).1
  exact ⟨n, hb, fun m hm => by cases hm⟩

/-- What each copy keeps, all of them keep, also those before a failure. -/
theorem keeps_stageAll {found : List Found}
    (hcopy : ∀ f ∈ found, isSource f = true → ∀ n b text b', P n b →
      b.insert (copyPath target f.names) .copiedSource (SourceText.stripMarkers text) = .ok b' →
      P (n + 1) b') {count : Nat} (hb : P count b)
    (hr : (stageAll target b count found).Runs t (r, b') t') :
    ∃ n, P n b' ∧ ∀ m, r = .ok m → m = n := by
  induction found generalizing b count t with
  | nil =>
    obtain ⟨heq, -⟩ := FileProgram.runs_pure.mp hr
    obtain ⟨rfl, rfl⟩ := Prod.mk.inj heq
    exact ⟨count, hb, fun m hm => (Except.ok.inj hm).symm⟩
  | cons f rest ih =>
    obtain ⟨hfirst, hrest⟩ := List.forall_mem_cons.mp hcopy
    rw [stageAll] at hr
    split_ifs at hr with hdirectory hsource
    · obtain ⟨answer, u, -, hnext⟩ := FileProgram.runs_bind.mp hr
      cases answer with
      | ok _ => exact ih hrest hb hnext
      | error fault => exact keeps_failure hb hnext
    · obtain ⟨answer, u, hstage, hnext⟩ := FileProgram.runs_bind.mp hr
      cases answer with
      | ok next =>
        obtain ⟨text, hinsert⟩ := insert_of_stage hstage
        exact ih hrest (hfirst hsource count b text next hb hinsert) hnext
      | error failure => exact keeps_failure hb hnext
    · exact ih hrest hb hr

theorem keeps_collect
    (hcopy : ∀ found, t.walk directory = .ok found → ∀ f ∈ found, isSource f = true →
      ∀ n b text b', P n b →
        b.insert (copyPath target f.names) .copiedSource (SourceText.stripMarkers text) = .ok b' →
        P (n + 1) b') (hb : P 0 b)
    (hr : (collect directory target b).Runs t (r, b') t') :
    ∃ n, P n b' ∧ ∀ m, r = .ok m → m = n := by
  obtain ⟨isDirectory, u, hlook, hrest⟩ := FileProgram.runs_bind.mp hr
  obtain ⟨kind, v, hkind, hpure⟩ := FileProgram.runs_bind.mp hlook
  obtain ⟨-, rfl⟩ := FileProgram.runs_pure.mp hpure
  obtain ⟨-, rfl⟩ := FileTree.answers_kind (FileProgram.runs_single.mp hkind)
  split_ifs at hrest
  · obtain ⟨answer, w, hwalk, hstage⟩ := FileProgram.runs_bind.mp hrest
    obtain ⟨rfl, hfound⟩ := FileTree.answers_walk (FileProgram.runs_single.mp hwalk)
    cases answer with
    | ok found => exact keeps_stageAll (hcopy found (hfound found rfl)) hb hstage
    | error fault => exact keeps_failure hb hstage
  · exact keeps_failure hb hrest

end

/-! ## Markers -/

theorem get?_of_insert_copy {path text : String}
    (h : b.insert path .copiedSource (SourceText.stripMarkers text) = .ok b') {other : String}
    {a : Artifact} (ha : b'.get? other = some a) :
    b.get? other = some a ∨ a = ⟨.copiedSource, SourceText.stripMarkers text⟩ := by
  obtain ⟨-, rfl⟩ := Bundle.insert_eq_ok.mp h
  rw [Bundle.get?_insert] at ha
  split_ifs at ha
  · exact .inr (Option.some.inj ha).symm
  · exact .inl ha

/-- A copy has no markers, also of a text with one that is never closed, and is the normal text if
that has none. So all that is ever collected is free of them, with faults and without. -/
theorem copies_markerFree : (∀ s, SourceText.MarkerFree (SourceText.stripMarkers s)) ∧
    (∀ s, SourceText.MarkerFree (SourceText.normalize s) →
      SourceText.stripMarkers s = SourceText.normalize s) ∧
    ∀ (directory target : String) (b b' : Bundle) (t t' : FileTree) (r : Except FileFailure Nat),
      (collect directory target b).Runs t (r, b') t' → ∀ path a, b'.get? path = some a →
        b.get? path = some a ∨ a.kind = .copiedSource ∧ SourceText.MarkerFree a.text := by
  refine ⟨SourceText.markerFree_stripMarkers, fun _ => SourceText.stripMarkers_eq_normalize, ?_⟩
  intro directory target b b' t t' r hr
  obtain ⟨-, hnew, -⟩ := keeps_collect
    (P := fun _ v => ∀ path a, v.get? path = some a →
      b.get? path = some a ∨ a.kind = .copiedSource ∧ SourceText.MarkerFree a.text)
    (fun _ _ _ _ _ _ _ text _ hv hinsert path a ha => by
      rcases get?_of_insert_copy hinsert ha with hold | rfl
      · exact hv path a hold
      · exact .inr ⟨rfl, SourceText.markerFree_stripMarkers text⟩)
    (fun _ _ ha => .inl ha) hr
  exact hnew

/-- A directory with one source, of which a marker is never closed. -/
def markedSources : FileTree where
  entries := [("src", .directory [
    ("person.rs", .file "pub struct Person;\n#[grpc_service(models = [\n".toUTF8)])]

theorem copies_markerFree_person : ∃ a,
    ((collect "src" "models" {}).runOn markedSources).1.2.get? "models/person.rs" = some a ∧
      a.text = "pub struct Person;\n" ∧ SourceText.MarkerFree a.text := by
  have hget : ((collect "src" "models" {}).runOn markedSources).1.2.get? "models/person.rs" =
      some ⟨.copiedSource, "pub struct Person;\n"⟩ := by decide +kernel
  refine ⟨_, hget, rfl, ?_⟩
  have hr := FileProgram.runs_runOn (collect "src" "models" {}) markedSources
  obtain hold | ⟨-, hfree⟩ := copies_markerFree.2.2 _ _ _ _ _ _ _ hr _ _ hget
  · cases hold
  · exact hfree

end RpcScaffold.CopiedSources
