import RpcScaffold.Proofs.Output.Clearing
import RpcScaffold.Proofs.Output.Plan
import RpcScaffold.Proofs.Output.Writing

/-!
# How a write ends

A write removes the old manifest, empties directories and writes files. It can stop at each of these,
and what it leaves behind depends on where it stopped.
-/

namespace RpcScaffold

open FileAction RpcScaffold.Path

namespace WritePlan

/-- The old manifest cannot be seen any more. -/
structure Opened (p : WritePlan) (t u : FileTree) : Prop
    extends FileTree.Sheds (· = t.place p.manifestPath) t u where
  unseen : u.kindAt p.manifestPath ≠ some .file

/-- The place is that of a reset directory, or is below it. -/
def Reset (p : WritePlan) (t : FileTree) (place : Place) : Prop :=
  ∃ directory ∈ p.resets, t.place directory <+: place

structure Cleared (p : WritePlan) (t u : FileTree) : Prop
    extends FileTree.Sheds (p.Reset t) t u where
  emptied : ∀ directory ∈ p.resets,
    t.Climbs (t.base directory) (pieces directory) → u.Emptied directory

/-- The ways in which a plan can be carried out, and where each leads. -/
inductive Ends (p : WritePlan) (t : FileTree) : Except FileFailure WriteSummary → FileTree → Prop
  | unopened (e : FileFailure) : p.Ends t (.error e) t
  | uncleared {u t' : FileTree} (e : FileFailure) (opened : p.Opened t u)
      (cleared : FileTree.Sheds (p.Reset u) u t') : p.Ends t (.error e) t'
  | unwritten {u v t' : FileTree} (e : FileFailure) (opened : p.Opened t u) (cleared : p.Cleared u v)
      (written : FileTree.Interrupted p.writes v t') : p.Ends t (.error e) t'
  | complete {u v t' : FileTree} {summary : WriteSummary} (opened : p.Opened t u)
      (cleared : p.Cleared u v) (written : FileTree.Wrote p.writes v t')
      (hsummary : summary.written = p.targets.length) : p.Ends t (.ok summary) t'

end WritePlan

namespace Output

open FileTree WritePlan

variable {t t' : FileTree} {p : WritePlan}

/-- Once the manifest cannot be seen, the rest follows. -/
theorem runs_open {α : Type} (h : t.Plain) {rest : FileAction α} {r : Except FileFailure α}
    (hr : (do
      if ← look (FileProgram.isFile p.manifestPath) then
        orFailAt p.manifestPath (FileProgram.remove p.manifestPath)
      rest : FileAction α).run.Runs t r t') :
    ((∃ e, r = .error e) ∧ t' = t) ∨ ∃ u, p.Opened t u ∧ rest.run.Runs u r t' := by
  obtain ⟨_, hlook, -⟩ | ⟨isFile, u, hlook, hnext⟩ := runs_bind.mp hr
  · obtain ⟨_, heq, -⟩ := runs_look.mp hlook
    cases heq
  obtain ⟨_, heq, hlook⟩ := runs_look.mp hlook
  obtain rfl := Except.ok.inj heq
  obtain ⟨kind, v, hkind, hpure⟩ := FileProgram.runs_bind.mp hlook
  obtain ⟨rfl, rfl⟩ := FileProgram.runs_pure.mp hpure
  obtain ⟨rfl, rfl⟩ := answers_kind (FileProgram.runs_single.mp hkind)
  dsimp only at hnext
  split_ifs at hnext with hfile
  · obtain ⟨e, hremove, rfl⟩ | ⟨_, w, hremove, hrest⟩ := runs_bind.mp hnext
    · obtain ⟨-, ⟨heq, -⟩ | hfailed⟩ := runs_remove h hremove
      · cases heq
      · exact .inl ⟨⟨e, rfl⟩, hfailed.2⟩
    · obtain ⟨hsheds, ⟨-, hnone⟩ | ⟨⟨_, heq⟩, -⟩⟩ := runs_remove h hremove
      · refine .inr ⟨w, ⟨hsheds, fun hseen => ?_⟩, hrest⟩
        obtain ⟨-, content, hcontent⟩ := (kindAt_eq_file hsheds.plain).mp hseen
        rw [hsheds.toExtends.place, hnone] at hcontent
        cases hcontent
      · cases heq
  · exact .inr ⟨u, ⟨.refl h, fun hseen => hfile (by simp [hseen])⟩, hnext⟩

theorem runs_writeAll (h : t.Plain) {r : Except FileFailure WriteSummary} {summary : WriteSummary}
    (hr : (do
      p.targets.forM fun t => writeFile t.1 t.2
      writeFile p.manifestPath p.manifest
      pure summary : FileAction WriteSummary).run.Runs t r t') :
    (r = .ok summary ∧ Wrote p.writes t t') ∨ (∃ e, r = .error e) ∧ Interrupted p.writes t t' := by
  obtain ⟨e, hfiles, rfl⟩ | ⟨_, u, hfiles, hrest⟩ := runs_bind.mp hr
  · obtain ⟨heq, -⟩ | ⟨-, hstopped⟩ := runs_writeFiles h hfiles
    · cases heq
    · exact .inr ⟨⟨e, rfl⟩, hstopped.append _⟩
  obtain ⟨-, hwrote⟩ | ⟨⟨_, heq⟩, -⟩ := runs_writeFiles h hfiles
  · obtain ⟨e, hmanifest, rfl⟩ | ⟨_, v, hmanifest, hpure⟩ := runs_bind.mp hrest
    · obtain ⟨heq, -⟩ | ⟨-, hstopped⟩ := runs_writeFile hwrote.plain hmanifest
      · cases heq
      · exact .inr ⟨⟨e, rfl⟩, hwrote.interrupted hstopped⟩
    · obtain ⟨rfl, rfl⟩ := runs_pure.mp hpure
      obtain ⟨-, hlast⟩ | ⟨⟨_, heq⟩, -⟩ := runs_writeFile hwrote.plain hmanifest
      · exact .inl ⟨rfl, hwrote.append hlast⟩
      · cases heq
  · cases heq

theorem runs_carryOut (h : t.Plain) {r : Except FileFailure WriteSummary}
    (hr : (carryOut p).run.Runs t r t') : p.Ends t r t' := by
  obtain ⟨⟨e, rfl⟩, rfl⟩ | ⟨u, hopened, hrest⟩ := runs_open h hr
  · exact .unopened e
  obtain ⟨e, hclear, rfl⟩ | ⟨removed, v, hclear, hwrites⟩ := runs_bind.mp hrest
  · exact .uncleared e hopened (runs_clearFiles_all hopened.plain hclear).1
  · obtain ⟨hsheds, hemptied⟩ := runs_clearFiles_all hopened.plain hclear
    have hcleared : p.Cleared u v := ⟨hsheds, hemptied removed rfl⟩
    obtain ⟨rfl, hwrote⟩ | ⟨⟨e, rfl⟩, hstopped⟩ := runs_writeAll hsheds.plain hwrites
    · exact .complete hopened hcleared hwrote rfl
    · exact .unwritten e hopened hcleared hstopped

theorem runs_writeBundle (h : t.Plain) {root : String} {b : Bundle} {l : Layout} {package : String}
    {r : Except FileFailure WriteSummary} (hr : (writeBundle root b l package).run.Runs t r t') :
    ((∀ path ∈ checkedPaths b l, staysInside path = true) ∧ (planOf root b l package).Ends t r t') ∨
      ∃ path ∈ checkedPaths b l, staysInside path ≠ true ∧ r = .error (.outside path) ∧ t' = t := by
  rw [writeBundle] at hr
  obtain ⟨hinside, hplan⟩ | ⟨path, hpath, hout, hplan⟩ := ofBundle_cases root b l package
  · rw [hplan] at hr
    exact .inl ⟨hinside, runs_carryOut h hr⟩
  · rw [hplan] at hr
    obtain ⟨rfl, rfl⟩ := FileProgram.runs_pure.mp hr
    exact .inr ⟨path, hpath, hout, rfl, rfl⟩

/-! ## An example -/

/-- An output root after an earlier write, with files of others in it. -/
def earlier : FileTree where
  entries := [("out", .directory [
    (".protowiz", .directory [("manifest.json", .file "old\n".toUTF8)]),
    ("README.txt.tmp", .file "notes\n".toUTF8),
    ("server", .file "a file\n".toUTF8),
    ("shared", .directory [("src", .directory [("models", .directory [
      ("old.rs", .file "// old\n".toUTF8)])])])])]

theorem plain_earlier : earlier.Plain := by
  have hmanifest : (FileNode.directory [("manifest.json", .file "old\n".toUTF8)]).Proper false :=
    .directory (by decide +kernel) (by simpa using .file _)
  have hmodels : (FileNode.directory [("models", .directory [
      ("old.rs", .file "// old\n".toUTF8)])]).Proper false :=
    .directory (by decide +kernel) (by simpa using .directory (by decide +kernel) (by simpa using .file _))
  have hshared : (FileNode.directory [("src", .directory [("models", .directory [
      ("old.rs", .file "// old\n".toUTF8)])])]).Proper false :=
    .directory (by decide +kernel) (by simpa using hmodels)
  refine ⟨.directory (by decide +kernel) (List.forall_mem_singleton.mpr ?_), rfl⟩
  refine .directory (by decide +kernel) ?_
  simp only [List.forall_mem_cons]
  exact ⟨hmanifest, .file _, .file _, hshared, by simp⟩

theorem grounded_earlier : earlier.Grounded "out" := grounded_of_not_mem (by decide +kernel)

def readme : Bundle := ⟨⟨[("README.txt", ⟨.instructions, "setup\n"⟩)]⟩⟩

theorem exists_runs_readme : ∃ t', (writeBundle "out" readme {} "demo").run.Runs earlier
    (.ok { written := 1, removed := 1, bytes := 6 }) t' := by
  have hresult : ((writeBundle "out" readme {} "demo").run.runOn earlier).1 =
      .ok { written := 1, removed := 1, bytes := 6 } := by decide +kernel
  have hr := FileProgram.runs_runOn (writeBundle "out" readme {} "demo").run earlier
  rw [hresult] at hr
  exact ⟨_, hr⟩

end Output

end RpcScaffold
