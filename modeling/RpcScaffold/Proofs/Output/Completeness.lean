import RpcScaffold.Proofs.Output.Outcome

/-!
# When a tree is complete

A write that succeeds leaves every artifact where no later write takes its place, and the manifest. A
manifest that is there after a write that changed anything says that it succeeded.
-/

namespace RpcScaffold

open RpcScaffold.Path

namespace FileTree

variable {t t' : FileTree}

theorem Grounded.join {root path : String} (hroot : t.Grounded root) (h : t.Plain)
    (hp : staysInside path = true) :
    t.Climbs (t.base (Path.join root path)) (pieces (Path.join root path)) :=
  (hroot.climbs h).join hp

/-- A file that is seen was seen before, if it was there. -/
theorem Extends.seen (h : Extends t t') (ht : t.Plain) {path : String}
    (hclimbs : t.Climbs (t.base path) (pieces path)) (hseen : t'.kindAt path = some .file)
    {content : ByteArray} (hold : t.file? (t.place path) = some content) :
    t.kindAt path = some .file := by
  obtain ⟨hleads, now, hnow⟩ := (kindAt_eq_file h.plain).mp hseen
  rw [h.place] at hnow
  exact (kindAt_eq_file ht).mpr
    ⟨h.leads_of_file hclimbs hleads hnow hold List.prefix_rfl, content, hold⟩

/-- What was written can be read exactly if the later writes leave it standing. -/
theorem Wrote.read_eq_ok {before after : List (String × String)} {w : String × String}
    (h : Wrote (before ++ w :: after) t t') : t'.read w.1 = .ok w.2.toUTF8 ↔
      t.standing after (t.place w.1) (some w.2.toUTF8) = some w.2.toUTF8 := by
  have hleads : t'.Leads w.1 := h.leads w (by simp)
  rw [FileTree.read_eq_ok h.plain, and_iff_right hleads, h.files, h.toExtends.place,
    standing_append, standing_cons, written, if_pos rfl]

end FileTree

/-! ## After success -/

namespace WritePlan

open FileTree

/-- Files in a directory that was emptied are those that were written. -/
theorem Cleared.exists_write {p : WritePlan} {t u t' : FileTree} (hcleared : p.Cleared t u)
    (hwrote : Wrote p.writes u t') {directory : String} (hd : directory ∈ p.resets)
    (hclimbs : t.Climbs (t.base directory) (pieces directory))
    (hkind : t'.kindAt directory ≠ none) {place : Place} {content : ByteArray}
    (habove : u.place directory <+: place) (hfile : t'.file? place = some content) :
    ∃ w ∈ p.writes, place = u.place w.1 := by
  have hext := hwrote.toExtends
  obtain ⟨kind, hsome⟩ := Option.ne_none_iff_exists'.mp hkind
  have hleads := ((kindAt_eq_some hext.plain).mp hsome).1
  have hempty := hcleared.emptied directory hd hclimbs t' hext hleads place content habove hfile
  rw [hwrote.files, hempty] at hfile
  exact (exists_of_standing hfile).resolve_left fun hold => by cases hold

end WritePlan

namespace Output

open FileTree WritePlan

variable {t t' : FileTree} {root : String} {b : Bundle} {l : Layout} {package : String}

/-- A write that succeeds leaves the manifest, nothing in the reset directories but what it wrote, and
an artifact exactly if the later writes do. -/
theorem writeBundle_complete (h : t.Plain) (hroot : t.Grounded root) {summary : WriteSummary}
    (hr : (writeBundle root b l package).run.Runs t (.ok summary) t') :
    summary.written = b.size ∧
      t'.read (join root l.manifestFile) = .ok (Manifest.ofBundle b package).text.toUTF8 ∧
      (∀ directory ∈ l.resetDirs, t'.kindAt (join root directory) ≠ none → ∀ place content,
        t.place (join root directory) <+: place → t'.file? place = some content →
          ∃ path ∈ writtenPaths b l, place = t.place (join root path)) ∧
      ∀ before path a after, b.toList = before ++ (path, a) :: after →
        (t'.read (join root path) = .ok a.text.toUTF8 ↔
          t.standing (targetsOf root after ++ [manifestOf root b l package])
            (t.place (join root path)) (some a.text.toUTF8) = some a.text.toUTF8) ∧
        (t.Untouched (targetsOf root after ++ [manifestOf root b l package])
            (t.place (join root path)) → t'.read (join root path) = .ok a.text.toUTF8) := by
  obtain ⟨hinside, hends⟩ | ⟨_, _, _, heq, _⟩ := runs_writeBundle h hr
  swap
  · cases heq
  cases hends with
  | complete hopened hcleared hwrote hsummary =>
    have hbefore := hopened.toExtends.trans hcleared.toExtends
    refine ⟨?_, ?_, fun directory hd hkind place content habove hfile => ?_, ?_⟩
    · rw [hsummary, planOf_targets, length_targetsOf]
    · exact hwrote.read_eq_ok.mpr rfl
    · have hclimbs := hopened.toExtends.climbs
        (hroot.join h (hinside directory (by simp [checkedPaths, hd])))
      rw [← hbefore.place] at habove
      obtain ⟨w, hw, hplace⟩ := hcleared.exists_write hwrote (List.mem_map_of_mem hd) hclimbs hkind
        habove hfile
      obtain ⟨path, hpath, heq⟩ := exists_path hw
      exact ⟨path, hpath, by rw [hplace, heq, hbefore.place]⟩
    · intro before path a after heq
      have hwrites : (planOf root b l package).writes = targetsOf root before ++
          (join root path, a.text) :: (targetsOf root after ++ [manifestOf root b l package]) := by
        rw [writes_planOf, targetsOf, heq]
        simp [targetsOf]
      rw [hwrites] at hwrote
      have hread := hwrote.read_eq_ok
      rw [hbefore.standing, hbefore.place] at hread
      exact ⟨hread, fun huntouched => hread.mpr (huntouched.standing _)⟩

theorem writeBundle_complete_readme : ∃ t',
    (writeBundle "out" readme {} "demo").run.Runs earlier
      (.ok { written := 1, removed := 1, bytes := 6 }) t' ∧
      t'.read "out/README.txt" = .ok "setup\n".toUTF8 := by
  obtain ⟨t', hr⟩ := exists_runs_readme
  obtain ⟨-, -, -, hartifacts⟩ := writeBundle_complete plain_earlier grounded_earlier hr
  exact ⟨t', hr, (hartifacts [] _ _ [] rfl).2 (by decide +kernel)⟩

/-- An artifact under the temporary name of the manifest is lost. -/
theorem writeBundle_loses_artifact :
    let b : Bundle := ⟨⟨[(".protowiz/manifest.json.tmp", ⟨.schema, "syntax\n"⟩)]⟩⟩
    let r := (writeBundle "out" b {} "demo").run.runOn earlier
    r.1 = .ok { written := 1, removed := 1, bytes := 7 } ∧
      r.2.read "out/.protowiz/manifest.json.tmp" = .error .notFound := by
  decide +kernel

end Output

/-! ## After failure -/

namespace WritePlan

open FileTree

variable {t t' : FileTree} {p : WritePlan}

/-- Writes that were interrupted did not write the manifest. -/
theorem manifest_interrupted {place : Place} (huntouched : t.Untouched p.targets place)
    (htemporary : place ≠ t.place (temporary p.manifestPath)) (hi : Interrupted p.writes t t') :
    t'.file? place = t.file? place := by
  obtain ⟨before, w, after, heq, hfiles⟩ := hi.files
  have htargets : p.targets = before ++ (w :: after).dropLast := by
    have hlast := congrArg List.dropLast heq
    rwa [writes, List.dropLast_concat, List.dropLast_append_of_ne_nil (List.cons_ne_nil _ _)] at hlast
  have hw : place ≠ t.place (temporary w.1) := by
    have hmem : w ∈ p.writes := by simp [heq]
    rcases List.mem_append.mp hmem with hmem | hmem
    · exact (huntouched w hmem).2
    · rwa [List.mem_singleton.mp hmem]
  have hbefore : t.Untouched before place :=
    fun x hx => huntouched x (by rw [htargets]; exact List.mem_append_left _ hx)
  rw [hfiles place hw, hbefore.standing]

/-- Once the old manifest is gone, none is seen until all is written. -/
theorem Ends.unseen
    (hclimbs : t.Climbs (t.base p.manifestPath) (pieces p.manifestPath))
    (hname : EndsInName p.manifestPath) (huntouched : t.Untouched p.targets (t.place p.manifestPath))
    {e : FileFailure} (hends : p.Ends t (.error e) t') :
    t' = t ∨ t'.kindAt p.manifestPath ≠ some .file := by
  -- What is left of the run after the manifest was removed brings no file to its place.
  have hlater : ∀ u, p.Opened t u → Extends u t' →
      (∀ content, t'.file? (t.place p.manifestPath) = some content →
        u.file? (t.place p.manifestPath) = some content) → t'.kindAt p.manifestPath ≠ some .file := by
    intro u hopened hext hold hseen
    obtain ⟨-, content, hcontent⟩ := (kindAt_eq_file hext.plain).mp hseen
    rw [hext.place, hopened.toExtends.place] at hcontent
    have hthere := hold content hcontent
    rw [← hopened.toExtends.place] at hthere
    exact hopened.unseen (hext.seen hopened.plain (hopened.toExtends.climbs hclimbs) hseen hthere)
  cases hends with
  | unopened => exact .inl rfl
  | @uncleared u _ _ hopened hcleared =>
    exact .inr (hlater u hopened hcleared.toExtends fun content => hcleared.file?_eq_some)
  | @unwritten u v _ _ hopened hcleared hwritten =>
    have hext := hopened.toExtends.trans hcleared.toExtends
    have hsame : t'.file? (t.place p.manifestPath) = v.file? (t.place p.manifestPath) := by
      refine manifest_interrupted (hext.untouched.mpr huntouched) ?_ hwritten
      rw [hext.place]
      exact (placeFrom_temporary_ne t.start hname).symm
    refine .inr (hlater u hopened (hcleared.toExtends.trans hwritten.toExtends) fun content => ?_)
    rw [hsame]
    exact hcleared.toSheds.file?_eq_some

end WritePlan

namespace Output

open FileTree WritePlan

variable {t t' : FileTree} {root : String} {b : Bundle} {l : Layout} {package : String}

/-- A write that fails changes nothing, or leaves no manifest. So where a manifest is there after a
write, nothing was changed or everything was written. -/
theorem writeBundle_manifest (h : t.Plain) (hroot : t.Grounded root)
    (hapart : ∀ path ∈ b.paths, t.place (join root l.manifestFile) ≠ t.place (join root path) ∧
      t.place (join root l.manifestFile) ≠ t.place (temporary (join root path)))
    {r : Except FileFailure WriteSummary}
    (hr : (writeBundle root b l package).run.Runs t r t') :
    ((∃ e, r = .error e) → t' = t ∨ t'.kindAt (join root l.manifestFile) ≠ some .file) ∧
      (t'.kindAt (join root l.manifestFile) = some .file → t' = t ∨ ∃ summary cleared,
        r = .ok summary ∧ summary.written = b.size ∧
          Wrote (targetsOf root b.toList ++ [manifestOf root b l package]) cleared t') := by
  obtain ⟨hinside, hends⟩ | ⟨_, _, _, rfl, rfl⟩ := runs_writeBundle h hr
  swap
  · exact ⟨fun _ => .inl rfl, fun _ => .inl rfl⟩
  have hmanifest := hinside l.manifestFile (by simp [checkedPaths])
  have huntouched : t.Untouched (targetsOf root b.toList) (t.place (join root l.manifestFile)) := by
    rw [Untouched, targetsOf, List.forall_mem_map]
    exact fun e he => hapart e.1 (List.mem_map_of_mem he)
  have hfailed : ∀ e, r = .error e → t' = t ∨ t'.kindAt (join root l.manifestFile) ≠ some .file := by
    rintro e rfl
    rw [← planOf_manifestPath root b l package]
    refine hends.unseen ?_ ?_ ?_
    · rw [planOf_manifestPath]
      exact hroot.join h hmanifest
    · rw [planOf_manifestPath]
      exact endsInName_join root hmanifest
    · rw [planOf_manifestPath, planOf_targets]
      exact huntouched
  refine ⟨?_, fun hseen => ?_⟩
  · rintro ⟨e, he⟩
    exact hfailed e he
  cases hends with
  | unopened e => exact .inl rfl
  | uncleared e => exact .inl ((hfailed e rfl).resolve_right fun hunseen => hunseen hseen)
  | unwritten e => exact .inl ((hfailed e rfl).resolve_right fun hunseen => hunseen hseen)
  | @complete u v _ summary _ _ hwrote hsummary =>
    refine .inr ⟨summary, v, rfl, ?_, hwrote⟩
    rw [hsummary, planOf_targets, length_targetsOf]

def setup : Bundle :=
  ⟨⟨[("README.txt", ⟨.instructions, "setup\n"⟩), ("server/mod.rs", ⟨.adapterIndex, "mod\n"⟩)]⟩⟩

theorem writeBundle_manifest_setup : ∃ e t',
    (writeBundle "out" setup {} "demo").run.Runs earlier (.error e) t' ∧
      earlier.kindAt "out/.protowiz/manifest.json" = some .file ∧
      t'.kindAt "out/.protowiz/manifest.json" ≠ some .file := by
  have hresult : ((writeBundle "out" setup {} "demo").run.runOn earlier).1 =
      .error (.file "out/server" .exists) ∧
      ((writeBundle "out" setup {} "demo").run.runOn earlier).2.read "out/README.txt" ≠
        earlier.read "out/README.txt" := by decide +kernel
  obtain ⟨hresult, hwritten⟩ := hresult
  have hr := FileProgram.runs_runOn (writeBundle "out" setup {} "demo").run earlier
  rw [hresult] at hr
  obtain ⟨hfailed, -⟩ :=
    writeBundle_manifest plain_earlier grounded_earlier (by decide +kernel) hr
  refine ⟨_, _, hr, by decide +kernel, (hfailed ⟨_, rfl⟩).resolve_left fun hsame => ?_⟩
  exact hwritten (by rw [hsame])

/-- The old manifest stays where the output root goes up from a directory that is made only with the
first artifact. -/
theorem writeBundle_keeps_manifest :
    let r := (writeBundle "new/../out" setup {} "demo").run.runOn earlier
    r.1 = .error (.file "new/../out/server" .exists) ∧
      r.2.read "out/README.txt" = .ok "setup\n".toUTF8 ∧
      earlier.read "out/README.txt" = .error .notFound ∧
      r.2.read "out/.protowiz/manifest.json" = .ok "old\n".toUTF8 := by
  decide +kernel

end Output

end RpcScaffold
