import RpcScaffold.Output.Write
import RpcScaffold.Proofs.Files.Runs

/-!
# Writing files

A file is written under its temporary name and renamed. Where both places are its own, it is there as
a whole or as it was before.
-/

namespace RpcScaffold

open FileAction RpcScaffold.Path

namespace FileTree

variable {t t' t'' : FileTree}

/-! ## What writes leave behind -/

/-- What one write leaves at a place. -/
def written (t : FileTree) (place : Place) (old : Option ByteArray) (w : String × String) :
    Option ByteArray :=
  if place = t.place w.1 then some w.2.toUTF8
  else if place = t.place (temporary w.1) then none
  else old

/-- What stands at a place after all writes. -/
def standing (t : FileTree) (writes : List (String × String)) (place : Place)
    (old : Option ByteArray) : Option ByteArray :=
  writes.foldl (t.written place) old

theorem standing_cons (w : String × String) (rest : List (String × String)) (place : Place)
    (old : Option ByteArray) : t.standing (w :: rest) place old =
      t.standing rest place (t.written place old w) := rfl

theorem standing_append (before after : List (String × String)) (place : Place)
    (old : Option ByteArray) : t.standing (before ++ after) place old =
      t.standing after place (t.standing before place old) :=
  List.foldl_append

/-- No write lands at the place, and none is prepared there. -/
def Untouched (t : FileTree) (writes : List (String × String)) (place : Place) : Prop :=
  ∀ w ∈ writes, place ≠ t.place w.1 ∧ place ≠ t.place (temporary w.1)

instance (t : FileTree) (writes : List (String × String)) (place : Place) :
    Decidable (t.Untouched writes place) := List.decidableBAll _ _

theorem Untouched.standing {writes : List (String × String)} {place : Place}
    (h : t.Untouched writes place) (old : Option ByteArray) : t.standing writes place old = old := by
  induction writes generalizing old with
  | nil => rfl
  | cons w rest ih =>
    obtain ⟨hw, hrest⟩ := List.forall_mem_cons.mp h
    rw [standing_cons, written, if_neg hw.1, if_neg hw.2]
    exact ih hrest old

/-- Files are new only at the places of writes. -/
theorem exists_of_standing {writes : List (String × String)} {place : Place} {content : ByteArray}
    {old : Option ByteArray} (h : t.standing writes place old = some content) :
    old = some content ∨ ∃ w ∈ writes, place = t.place w.1 := by
  induction writes generalizing old with
  | nil => exact .inl h
  | cons w rest ih =>
    rw [standing_cons] at h
    rcases ih h with hold | ⟨w', hw', hplace⟩
    · rw [written] at hold
      split_ifs at hold with hw
      · exact .inr ⟨w, List.mem_cons_self, hw⟩
      · exact .inl hold
    · exact .inr ⟨w', List.mem_cons_of_mem _ hw', hplace⟩

/-- At a place that is that of no write, writes leave what was there, or nothing. -/
theorem standing_eq_or_none {writes : List (String × String)} {place : Place}
    (h : ∀ w ∈ writes, place ≠ t.place w.1) (old : Option ByteArray) :
    t.standing writes place old = old ∨ t.standing writes place old = none := by
  cases hnow : t.standing writes place old with
  | none => exact .inr rfl
  | some content =>
    rcases exists_of_standing hnow with hold | ⟨w, hw, hplace⟩
    · exact .inl hold.symm
    · exact absurd hplace (h w hw)

/-- Nothing stays under a temporary name, if it is no name of a write. -/
theorem standing_temporary {writes : List (String × String)} {w : String × String}
    (hw : w ∈ writes) (h : ∀ w' ∈ writes, t.place (temporary w.1) ≠ t.place w'.1)
    (old : Option ByteArray) : t.standing writes (t.place (temporary w.1)) old = none := by
  obtain ⟨before, after, rfl⟩ := List.append_of_mem hw
  have hafter : ∀ w' ∈ after, t.place (temporary w.1) ≠ t.place w'.1 :=
    fun w' hw' => h w' (by simp [hw'])
  rw [standing_append, standing_cons, written, if_neg (h w hw), if_pos rfl]
  rcases standing_eq_or_none hafter none with hnone | hnone
  · exact hnone
  · exact hnone

theorem Extends.standing (h : Extends t t') : t'.standing = t.standing := by
  funext writes place old
  rw [FileTree.standing, FileTree.standing]
  congr 1
  funext old w
  rw [written, written, h.place, h.place]

theorem Extends.untouched (h : Extends t t') {writes : List (String × String)} {place : Place} :
    t'.Untouched writes place ↔ t.Untouched writes place := by
  simp only [Untouched, h.place]

/-! ## Writes in a row -/

/-- All writes were made, and nothing else. -/
structure Wrote (writes : List (String × String)) (t t' : FileTree) : Prop extends Extends t t' where
  files : ∀ place, t'.file? place = t.standing writes place (t.file? place)
  leads : ∀ w ∈ writes, t'.Leads w.1

theorem Wrote.nil (h : Extends t t') (hfiles : t'.file? = t.file?) : Wrote [] t t' :=
  ⟨h, fun place => by rw [hfiles]; rfl, by simp⟩

theorem Wrote.append {writes more : List (String × String)} (h : Wrote writes t t')
    (h' : Wrote more t' t'') : Wrote (writes ++ more) t t'' := by
  refine ⟨h.toExtends.trans h'.toExtends, fun place => ?_, fun w hw => ?_⟩
  · rw [h'.files, h.files, h.toExtends.standing, standing_append]
  · rcases List.mem_append.mp hw with hw | hw
    · exact h'.toExtends.leads (h.leads w hw)
    · exact h'.leads w hw

/-- The first writes were made, and the next one stopped before its file was there. -/
structure Interrupted (writes : List (String × String)) (t t' : FileTree) : Prop
    extends Extends t t' where
  files : ∃ before w after, writes = before ++ w :: after ∧ ∀ place,
    place ≠ t.place (temporary w.1) → t'.file? place = t.standing before place (t.file? place)

theorem Interrupted.append {writes : List (String × String)} (h : Interrupted writes t t')
    (more : List (String × String)) : Interrupted (writes ++ more) t t' := by
  obtain ⟨before, w, after, rfl, hfiles⟩ := h.files
  exact ⟨h.toExtends, before, w, after ++ more, by simp, hfiles⟩

theorem Wrote.interrupted {writes more : List (String × String)} (h : Wrote writes t t')
    (h' : Interrupted more t' t'') : Interrupted (writes ++ more) t t'' := by
  obtain ⟨before, w, after, rfl, hfiles⟩ := h'.files
  refine ⟨h.toExtends.trans h'.toExtends, writes ++ before, w, after, by simp, fun place hplace => ?_⟩
  rw [hfiles place (by rwa [h.toExtends.place]), h.files, h.toExtends.standing, standing_append]

end FileTree

namespace Output

open FileTree

variable {t t' : FileTree}

/-! ## Directories -/

theorem runs_makeDirectory (h : t.Plain) {path : String} {r : Except FileFault Unit}
    (hr : (FileProgram.makeDirectory path).Runs t r t') : Wrote [] t t' := by
  rcases answers_makeDirectory (FileProgram.runs_single.mp hr) with rfl | hmade
  · exact .nil h.extends_self rfl
  · obtain ⟨hext, hnone, hshape⟩ := makeDirectory_eq_ok h hmade
    refine .nil hext ?_
    have hfile : t.file? (t.place path) = none := by
      rw [file?, hnone]
      rfl
    rw [file?_of_update hshape]
    exact Function.update_eq_self_iff.mpr hfile.symm

theorem runs_orPresent {path : String} {result r : Except FileFault Unit}
    (hr : (makeFirst.orPresent path result).Runs t r t') : t' = t := by
  cases result with
  | ok _ => exact (FileProgram.runs_pure.mp hr).2
  | error fault =>
    obtain ⟨isDirectory, u, hlook, hpure⟩ := FileProgram.runs_bind.mp hr
    obtain ⟨kind, v, hkind, hsame⟩ := FileProgram.runs_bind.mp hlook
    rw [(FileProgram.runs_pure.mp hpure).2, (FileProgram.runs_pure.mp hsame).2]
    exact (answers_kind (FileProgram.runs_single.mp hkind)).2

theorem runs_makeFirst (h : t.Plain) {paths : List String} {r : Except FileFault Unit}
    (hr : (makeFirst paths).Runs t r t') : Wrote [] t t' := by
  induction paths generalizing t r t' with
  | nil =>
    obtain ⟨-, rfl⟩ := FileProgram.runs_pure.mp hr
    exact .nil h.extends_self rfl
  | cons path parents ih =>
    obtain ⟨answer, u, hmake, hrest⟩ := FileProgram.runs_bind.mp hr
    have hmade := runs_makeDirectory h hmake
    split at hrest
    · obtain ⟨-, rfl⟩ := FileProgram.runs_pure.mp hrest
      exact hmade
    · obtain ⟨answer, v, hparents, hagain⟩ := FileProgram.runs_bind.mp hrest
      have hup := hmade.append (ih hmade.plain hparents)
      split at hagain
      · obtain ⟨answer, w, hmake, hpresent⟩ := FileProgram.runs_bind.mp hagain
        rw [runs_orPresent hpresent]
        exact hup.append (runs_makeDirectory hup.plain hmake)
      · obtain ⟨-, rfl⟩ := FileProgram.runs_pure.mp hagain
        exact hup
    · rw [runs_orPresent hrest]
      exact hmade

/-! ## Files -/

theorem runs_write (h : t.Plain) {path : String} {content : ByteArray} {r : Except FileFailure Unit}
    (hr : (orFailAt path (FileProgram.write path content)).run.Runs t r t') : Extends t t' ∧
      ((r = .ok () ∧ t'.file? = Function.update t.file? (t.place path) (some content)) ∨
        (∃ e, r = .error e) ∧ ∀ place, place ≠ t.place path → t'.file? place = t.file? place) := by
  have hanswer : ∀ {answer}, (FileProgram.write path content).Runs t answer t' →
      (answer = .ok () ∧ t.write path content = .ok t') ∨
        ∃ fault, answer = .error fault ∧ (t' = t ∨ ∃ part, t.write path part = .ok t') :=
    fun hwrite => answers_write (FileProgram.runs_single.mp hwrite)
  obtain ⟨_, rfl, hwrite⟩ | ⟨_, rfl, hwrite⟩ := runs_orFailAt.mp hr
  · obtain ⟨-, hwrite⟩ | ⟨_, heq, -⟩ := hanswer hwrite
    · obtain ⟨hext, hshape⟩ := write_eq_ok h hwrite
      exact ⟨hext, .inl ⟨rfl, file?_of_update hshape⟩⟩
    · cases heq
  · obtain ⟨heq, -⟩ | ⟨_, -, rfl | ⟨part, hwrite⟩⟩ := hanswer hwrite
    · cases heq
    · exact ⟨h.extends_self, .inr ⟨⟨_, rfl⟩, fun _ _ => rfl⟩⟩
    · obtain ⟨hext, hshape⟩ := write_eq_ok h hwrite
      refine ⟨hext, .inr ⟨⟨_, rfl⟩, fun place hplace => ?_⟩⟩
      rw [file?_of_update hshape, Function.update_of_ne hplace]

theorem runs_rename (h : t.Plain) {source target : String} {r : Except FileFailure Unit}
    (hr : (orFailAt target (FileProgram.rename source target)).run.Runs t r t') :
    (r = .ok () ∧ Extends t t' ∧ t'.Leads target ∧
      ∃ content, t.file? (t.place source) = some content ∧ t'.file? = Function.update
        (Function.update t.file? (t.place source) none) (t.place target) (some content)) ∨
      (∃ e, r = .error e) ∧ t' = t := by
  have hanswer : ∀ {answer}, (FileProgram.rename source target).Runs t answer t' →
      (answer = .ok () ∧ t.rename source target = .ok t') ∨
        ∃ fault, answer = .error fault ∧ t' = t :=
    fun hrename => answers_rename (FileProgram.runs_single.mp hrename)
  obtain ⟨_, rfl, hrename⟩ | ⟨_, rfl, hrename⟩ := runs_orFailAt.mp hr
  · obtain ⟨-, hrename⟩ | ⟨_, heq, -⟩ := hanswer hrename
    · obtain ⟨hext, hleads, content, hcontent, hshape⟩ := rename_eq_ok h hrename
      refine .inl ⟨rfl, hext, hext.leads hleads, content, hcontent, ?_⟩
      funext place
      rw [file?, hshape]
      simp only [Function.update_apply]
      split_ifs <;> rfl
    · cases heq
  · obtain ⟨heq, -⟩ | ⟨_, -, rfl⟩ := hanswer hrename
    · cases heq
    · exact .inr ⟨⟨_, rfl⟩, rfl⟩

/-- From the temporary file on. -/
theorem runs_replace (h : t.Plain) {path text : String} {r : Except FileFailure Unit}
    (hr : (do
      orFailAt (temporary path) (FileProgram.write (temporary path) text.toUTF8)
      orFailAt path (FileProgram.rename (temporary path) path) : FileAction Unit).run.Runs t r t') :
    (r = .ok () ∧ Wrote [(path, text)] t t') ∨
      (∃ e, r = .error e) ∧ Interrupted [(path, text)] t t' := by
  -- A write that fails may leave anything under the temporary name. A rename that fails does nothing.
  have hstopped : ∀ {u}, Extends t u →
      (∀ place, place ≠ t.place (temporary path) → u.file? place = t.file? place) →
      Interrupted [(path, text)] t u :=
    fun hext hfiles => ⟨hext, [], _, [], rfl, hfiles⟩
  obtain ⟨e, hwrite, rfl⟩ | ⟨_, u, hwrite, hrename⟩ := runs_bind.mp hr
  · obtain ⟨hext, ⟨heq, -⟩ | ⟨-, hfiles⟩⟩ := runs_write h hwrite
    · cases heq
    · exact .inr ⟨⟨e, rfl⟩, hstopped hext hfiles⟩
  obtain ⟨hext, ⟨-, hfiles⟩ | ⟨⟨_, heq⟩, -⟩⟩ := runs_write h hwrite
  · obtain ⟨rfl, hext', hleads, content, hcontent, hfiles'⟩ | ⟨herror, rfl⟩ :=
      runs_rename hext.plain hrename
    · rw [hext.place, hfiles, Function.update_self] at hcontent
      obtain rfl := Option.some.inj hcontent
      refine .inl ⟨rfl, hext.trans hext', fun place => ?_, by simpa using hleads⟩
      rw [hfiles', hext.place, hext.place, hfiles, Function.update_idem]
      simp only [Function.update_apply, standing, written, List.foldl_cons, List.foldl_nil]
    · refine .inr ⟨herror, hstopped hext fun place hplace => ?_⟩
      rw [hfiles, Function.update_of_ne hplace]
  · cases heq

theorem runs_writeFile (h : t.Plain) {path text : String} {r : Except FileFailure Unit}
    (hr : (writeFile path text).run.Runs t r t') : (r = .ok () ∧ Wrote [(path, text)] t t') ∨
      (∃ e, r = .error e) ∧ Interrupted [(path, text)] t t' := by
  rw [writeFile] at hr
  cases hparent : parent? path with
  | none =>
    rw [hparent] at hr
    exact runs_replace h hr
  | some directory =>
    rw [hparent] at hr
    have hmade : ∀ {r u}, (orFailAt directory (makeDirectories directory)).run.Runs t r u →
        Wrote [] t u := by
      intro r u hmake
      obtain ⟨_, -, hmake⟩ | ⟨_, -, hmake⟩ := runs_orFailAt.mp hmake
      · exact runs_makeFirst h hmake
      · exact runs_makeFirst h hmake
    obtain ⟨e, hmake, rfl⟩ | ⟨_, u, hmake, hreplace⟩ := runs_bind.mp hr
    · have hu := hmade hmake
      exact .inr ⟨⟨e, rfl⟩, hu.toExtends, [], _, [], rfl, fun place _ => hu.files place⟩
    · have hu := hmade hmake
      obtain ⟨hok, hwrote⟩ | ⟨herror, hstopped⟩ := runs_replace hu.plain hreplace
      · exact .inl ⟨hok, hu.append hwrote⟩
      · exact .inr ⟨herror, hu.interrupted hstopped⟩

theorem runs_writeFiles (h : t.Plain) {writes : List (String × String)}
    {r : Except FileFailure PUnit}
    (hr : (writes.forM fun w => writeFile w.1 w.2).run.Runs t r t') :
    (r = .ok () ∧ Wrote writes t t') ∨ (∃ e, r = .error e) ∧ Interrupted writes t t' := by
  induction writes generalizing t with
  | nil =>
    obtain ⟨rfl, rfl⟩ := runs_pure.mp hr
    exact .inl ⟨rfl, .nil h.extends_self rfl⟩
  | cons w rest ih =>
    obtain ⟨e, hfirst, rfl⟩ | ⟨_, u, hfirst, hrest⟩ := runs_bind.mp hr
    · obtain ⟨heq, -⟩ | ⟨-, hstopped⟩ := runs_writeFile h hfirst
      · cases heq
      · exact .inr ⟨⟨e, rfl⟩, hstopped.append rest⟩
    · obtain ⟨-, hwrote⟩ | ⟨⟨_, heq⟩, -⟩ := runs_writeFile h hfirst
      · obtain ⟨hok, hmore⟩ | ⟨herror, hstopped⟩ := ih hwrote.plain hrest
        · exact .inl ⟨hok, hwrote.append hmore⟩
        · exact .inr ⟨herror, hwrote.interrupted hstopped⟩
      · cases heq

end Output

end RpcScaffold
