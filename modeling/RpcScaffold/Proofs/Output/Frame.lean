import RpcScaffold.Proofs.Output.Outcome

/-!
# What a write leaves alone

However a write ends, it changes files at and below the reset directories, at the places of what it
writes, and under the temporary names beside them.
-/

namespace RpcScaffold

open RpcScaffold.Path

namespace WritePlan

open FileTree

variable {t t' u : FileTree} {p : WritePlan} {place : Place}

/-- The place is neither at or below a reset directory nor that of a file to be written. -/
structure Foreign (p : WritePlan) (t : FileTree) (place : Place) : Prop where
  reset : ¬ p.Reset t place
  written : ∀ w ∈ p.writes, place ≠ t.place w.1

theorem Foreign.opened (h : p.Foreign t place) (hopened : p.Opened t u) :
    u.file? place = t.file? place :=
  hopened.toSheds.file?_eq (h.written (p.manifestPath, p.manifest) (by simp [writes]))

theorem Reset.of_extends (hext : Extends t u) (h : p.Reset u place) : p.Reset t place := by
  obtain ⟨directory, hd, habove⟩ := h
  exact ⟨directory, hd, by rwa [← hext.place]⟩

/-- Files outside are as they were until the writes begin. -/
theorem Foreign.cleared (h : p.Foreign t place) (hopened : p.Opened t u)
    (hcleared : Sheds (p.Reset u) u t') : t'.file? place = t.file? place := by
  rw [hcleared.file?_eq fun hreset => h.reset (hreset.of_extends hopened.toExtends), h.opened hopened]

/-- A file outside that is under no temporary name is left alone. -/
theorem Foreign.file?_eq (h : p.Foreign t place)
    (htemporary : ∀ w ∈ p.writes, place ≠ t.place (temporary w.1))
    {r : Except FileFailure WriteSummary} (hends : p.Ends t r t') :
    t'.file? place = t.file? place := by
  have huntouched : t.Untouched p.writes place := fun w hw => ⟨h.written w hw, htemporary w hw⟩
  cases hends with
  | unopened => rfl
  | uncleared _ hopened hcleared => exact h.cleared hopened hcleared
  | @unwritten u v _ _ hopened hcleared hwritten =>
    have hext := hopened.toExtends.trans hcleared.toExtends
    obtain ⟨before, w, after, heq, hfiles⟩ := hwritten.files
    have hbefore : v.Untouched before place := by
      rw [hext.untouched]
      exact fun x hx => huntouched x (by simp [heq, hx])
    have hw : place ≠ v.place (temporary w.1) := by
      rw [hext.place]
      exact htemporary w (by simp [heq])
    rw [hfiles place hw, hbefore.standing, h.cleared hopened hcleared.toSheds]
  | @complete u v _ _ hopened hcleared hwrote =>
    have hext := hopened.toExtends.trans hcleared.toExtends
    rw [hwrote.files, (hext.untouched.mpr huntouched).standing, h.cleared hopened hcleared.toSheds]

/-- A temporary name that is no file's own is not there after success. -/
theorem Ends.temporary_none {summary : WriteSummary} (hends : p.Ends t (.ok summary) t')
    {w : String × String} (hw : w ∈ p.writes)
    (hown : ∀ w' ∈ p.writes, t.place (temporary w.1) ≠ t.place w'.1) :
    t'.file? (t.place (temporary w.1)) = none := by
  cases hends with
  | complete hopened hcleared hwrote =>
    have hext := hopened.toExtends.trans hcleared.toExtends
    rw [hwrote.files, hext.standing, standing_temporary hw hown]

/-- A failure leaves at most one temporary file, beside the file that could not be written. -/
theorem Ends.temporary_one {e : FileFailure} (hends : p.Ends t (.error e) t') :
    ∃ w ∈ p.writes, ∀ place, p.Foreign t place → place ≠ t.place (temporary w.1) →
      t'.file? place = t.file? place ∨ t'.file? place = none := by
  cases hends with
  | unopened => exact ⟨(p.manifestPath, p.manifest), by simp [writes], fun _ _ _ => .inl rfl⟩
  | uncleared _ hopened hcleared =>
    exact ⟨(p.manifestPath, p.manifest), by simp [writes],
      fun _ hforeign _ => .inl (hforeign.cleared hopened hcleared)⟩
  | @unwritten u v _ _ hopened hcleared hwritten =>
    have hext := hopened.toExtends.trans hcleared.toExtends
    obtain ⟨before, w, after, heq, hfiles⟩ := hwritten.files
    refine ⟨w, by simp [heq], fun place hforeign hplace => ?_⟩
    rw [← hext.place] at hplace
    rw [hfiles place hplace, hext.standing, hforeign.cleared hopened hcleared.toSheds]
    exact standing_eq_or_none (fun x hx => hforeign.written x (by simp [heq, hx])) _

end WritePlan

namespace Output

open FileTree WritePlan

variable {t t' : FileTree} {root : String} {b : Bundle} {l : Layout} {package : String}

/-- The place is neither at or below a reset directory nor that of an artifact or of the manifest. -/
structure Outside (root : String) (b : Bundle) (l : Layout) (t : FileTree) (place : Place) :
    Prop where
  reset : ∀ directory ∈ l.resetDirs, ¬ t.place (join root directory) <+: place
  written : ∀ path ∈ writtenPaths b l, place ≠ t.place (join root path)

instance (root : String) (b : Bundle) (l : Layout) (t : FileTree) (place : Place) :
    Decidable (Outside root b l t place) :=
  decidable_of_iff ((∀ directory ∈ l.resetDirs, ¬ t.place (join root directory) <+: place) ∧
      ∀ path ∈ writtenPaths b l, place ≠ t.place (join root path))
    ⟨fun h => ⟨h.1, h.2⟩, fun h => ⟨h.reset, h.written⟩⟩

theorem Outside.foreign {place : Place} (h : Outside root b l t place) :
    (planOf root b l package).Foreign t place := by
  constructor
  · rintro ⟨_, hmem, habove⟩
    obtain ⟨directory, hd, rfl⟩ := List.mem_map.mp hmem
    exact h.reset directory hd habove
  · intro w hw
    obtain ⟨path, hpath, heq⟩ := exists_path hw
    rw [heq]
    exact h.written path hpath

/-- A write leaves all files outside alone, but for those under the temporary names of what it writes.
After success nothing is left under these, and after a failure under at most one. -/
theorem writeBundle_outside (h : t.Plain) {r : Except FileFailure WriteSummary}
    (hr : (writeBundle root b l package).run.Runs t r t') :
    (∀ place, Outside root b l t place →
      (∀ path ∈ writtenPaths b l, place ≠ t.place (temporary (join root path))) →
        t'.file? place = t.file? place) ∧
      (∀ summary, r = .ok summary → ∀ path ∈ writtenPaths b l,
        (∀ other ∈ writtenPaths b l,
          t.place (temporary (join root path)) ≠ t.place (join root other)) →
        t'.file? (t.place (temporary (join root path))) = none) ∧
      ∀ e, r = .error e → ∃ path ∈ writtenPaths b l, ∀ place, Outside root b l t place →
        place ≠ t.place (temporary (join root path)) →
          t'.file? place = t.file? place ∨ t'.file? place = none := by
  obtain ⟨-, hends⟩ | ⟨_, _, _, rfl, rfl⟩ := runs_writeBundle h hr
  swap
  · refine ⟨fun _ _ _ => rfl, ?_, fun _ _ => ⟨l.manifestFile, by simp [writtenPaths], ?_⟩⟩
    · rintro _ ⟨⟩
    · exact fun _ _ _ => .inl rfl
  refine ⟨fun place houtside htemporary => ?_, ?_, ?_⟩
  · refine houtside.foreign.file?_eq (fun w hw => ?_) hends
    obtain ⟨path, hpath, heq⟩ := exists_path hw
    rw [heq]
    exact htemporary path hpath
  · rintro summary rfl path hpath hown
    obtain ⟨w, hw, heq⟩ := exists_write package hpath
    rw [← heq]
    refine hends.temporary_none hw fun other hother => ?_
    obtain ⟨path', hpath', heq'⟩ := exists_path hother
    rw [heq, heq']
    exact hown path' hpath'
  · rintro e rfl
    obtain ⟨w, hw, hplaces⟩ := hends.temporary_one
    obtain ⟨path, hpath, heq⟩ := exists_path hw
    rw [heq] at hplaces
    exact ⟨path, hpath, fun place houtside => hplaces place houtside.foreign⟩

theorem writeBundle_outside_readme : ∃ t',
    (writeBundle "out" readme {} "demo").run.Runs earlier
      (.ok { written := 1, removed := 1, bytes := 6 }) t' ∧
      t'.file? ["out", "server"] = some "a file\n".toUTF8 := by
  obtain ⟨t', hr⟩ := exists_runs_readme
  have hsame := (writeBundle_outside plain_earlier hr).1 ["out", "server"]
    (by decide +kernel) (by decide +kernel)
  exact ⟨t', hr, by rw [hsame]; decide +kernel⟩

/-- The notes of someone else under the temporary name of an artifact are lost. -/
theorem writeBundle_loses_notes :
    let r := (writeBundle "out" readme {} "demo").run.runOn earlier
    r.1 = .ok { written := 1, removed := 1, bytes := 6 } ∧
      earlier.file? ["out", "README.txt.tmp"] = some "notes\n".toUTF8 ∧
      r.2.file? ["out", "README.txt.tmp"] = none ∧
      Outside "out" readme {} earlier ["out", "README.txt.tmp"] := by
  decide +kernel

end Output

end RpcScaffold
