import RpcScaffold.Output.Write
import RpcScaffold.Proofs.Files.Runs

/-!
# Emptying directories

A directory is emptied file by file. Wherever that stops, files may be gone from it, and all others
are as they were.
-/

namespace RpcScaffold

open FileAction RpcScaffold.Path

namespace FileTree

variable {base t t' t'' : FileTree} {gone gone' : Place → Prop}

/-! ## Trees with fewer files -/

/-- Files may be gone from some places, and all others are as they were. -/
structure Sheds (gone : Place → Prop) (t t' : FileTree) : Prop extends Extends t t' where
  files : ∀ place, t'.file? place = t.file? place ∨ gone place ∧ t'.file? place = none

theorem Sheds.refl (h : t.Plain) : Sheds gone t t := ⟨h.extends_self, fun _ => .inl rfl⟩

theorem Sheds.mono (h : Sheds gone t t') (hgone : ∀ place, gone place → gone' place) :
    Sheds gone' t t' :=
  ⟨h.toExtends, fun place => (h.files place).imp_right fun hnone => ⟨hgone place hnone.1, hnone.2⟩⟩

theorem Sheds.trans (h : Sheds gone t t') (h' : Sheds gone t' t'') : Sheds gone t t'' := by
  refine ⟨h.toExtends.trans h'.toExtends, fun place => ?_⟩
  rcases h'.files place with hsame | hnone
  · rw [hsame]
    exact h.files place
  · exact .inr hnone

theorem Sheds.file?_eq_none (h : Sheds gone t t') {place : Place} (hnone : t.file? place = none) :
    t'.file? place = none := by
  rcases h.files place with hsame | ⟨-, hgone⟩
  · rw [hsame, hnone]
  · exact hgone

theorem Sheds.file?_eq_some (h : Sheds gone t t') {place : Place} {content : ByteArray}
    (hsome : t'.file? place = some content) : t.file? place = some content := by
  rcases h.files place with hsame | ⟨-, hgone⟩
  · rw [← hsame, hsome]
  · rw [hgone] at hsome
    cases hsome

theorem Sheds.file?_eq (h : Sheds gone t t') {place : Place} (hnot : ¬ gone place) :
    t'.file? place = t.file? place :=
  (h.files place).resolve_right fun hgone => hnot hgone.1

/-- Whatever file the directory is ever seen to hold, it does not hold yet. -/
def Emptied (t : FileTree) (directory : String) : Prop :=
  ∀ u, Extends t u → u.Leads directory → ∀ place content,
    t.place directory <+: place → u.file? place = some content → t.file? place = none

theorem Emptied.sheds {directory : String} (he : t.Emptied directory) (h : Sheds gone t t') :
    t'.Emptied directory := by
  intro u hu hleads place content habove hfile
  rw [h.toExtends.place] at habove
  exact h.file?_eq_none (he u (h.toExtends.trans hu) hleads place content habove hfile)

/-- A directory that cannot be found holds nothing that is found later. -/
theorem emptied_of_kindAt (h : t.Plain) {directory : String}
    (hclimbs : t.Climbs (t.base directory) (pieces directory))
    (hkind : t.kindAt directory = none) : t.Emptied directory := by
  intro u hu hleads place content habove hfile
  rw [Option.eq_none_iff_forall_not_mem]
  intro old hold
  have hthere := hu.leads_of_file hclimbs hleads hfile hold habove
  obtain ⟨rest, rfl⟩ := habove
  rw [Option.mem_def, file?_eq_some, get?, FileNode.at?_append, Option.bind_eq_some_iff] at hold
  obtain ⟨node, hnode, -⟩ := hold
  have hsome : t.kindAt directory = some node.kind :=
    (kindAt_eq_some h).mpr ⟨hthere, by rw [get?, hnode]; rfl⟩
  rw [hkind] at hsome
  cases hsome

end FileTree

namespace Output

open FileTree

variable {base t t' : FileTree}

/-! ## Loops -/

/-- Steps that only remove files do so in a row, and what a step has done stays done. -/
theorem runs_total {ι : Type} {step : ι → FileAction Nat} {gone : ι → Place → Prop}
    {Done : ι → FileTree → Prop}
    (hkeep : ∀ x t t' g, Done x t → Sheds g t t' → Done x t') {xs : List ι}
    (hstep : ∀ x t r t', Extends base t → (step x).run.Runs t r t' →
      Sheds (gone x) t t' ∧ ∀ n, r = .ok n → Done x t') (ht : Extends base t) {n : Nat}
    {r : Except FileFailure Nat}
    (hr : (xs.foldlM (fun n x => do pure (n + (← step x))) n).run.Runs t r t') :
    Sheds (fun place => ∃ x ∈ xs, gone x place) t t' ∧ ∀ k, r = .ok k → ∀ x ∈ xs, Done x t' := by
  induction xs generalizing n t with
  | nil =>
    obtain ⟨-, rfl⟩ := runs_pure.mp hr
    exact ⟨.refl ht.plain, by simp⟩
  | cons x rest ih =>
    rw [List.foldlM_cons] at hr
    obtain ⟨e, hfirst, rfl⟩ | ⟨k, u, hfirst, hr⟩ := runs_bind.mp hr
    · have hfirst : (step x).run.Runs t (.error e) t' := by
        obtain ⟨_, hx, heq⟩ | ⟨_, _, _, hx⟩ := runs_bind.mp hfirst
        · rwa [heq]
        · cases (runs_pure.mp hx).1
      exact ⟨(hstep x t _ t' ht hfirst).1.mono fun _ hgone => ⟨x, List.mem_cons_self, hgone⟩,
        fun _ hk => by cases hk⟩
    · obtain ⟨_, _, heq⟩ | ⟨m, v, hx, hpure⟩ := runs_bind.mp hfirst
      · cases heq
      obtain ⟨-, rfl⟩ := runs_pure.mp hpure
      obtain ⟨hsheds, hdone⟩ := hstep x t _ _ ht hx
      obtain ⟨hmore, hall⟩ := ih (ht.trans hsheds.toExtends) hr
      refine ⟨(hsheds.mono ?_).trans (hmore.mono ?_), fun k hk => List.forall_mem_cons.mpr ⟨?_, ?_⟩⟩
      · exact fun _ hgone => ⟨x, List.mem_cons_self, hgone⟩
      · exact fun _ ⟨y, hy, hgone⟩ => ⟨y, List.mem_cons_of_mem _ hy, hgone⟩
      · exact hkeep x _ t' _ (hdone m rfl) hmore
      · exact hall k hk

/-! ## One directory -/

theorem runs_remove (ht : t.Plain) {path : String} {r : Except FileFailure Unit}
    (hr : (orFailAt path (FileProgram.remove path)).run.Runs t r t') :
    Sheds (· = t.place path) t t' ∧ ((r = .ok () ∧ t'.file? (t.place path) = none) ∨
      (∃ e, r = .error e) ∧ t' = t) := by
  have hanswer : ∀ {answer}, (FileProgram.remove path).Runs t answer t' →
      (answer = .ok () ∧ t.remove path = .ok t') ∨ ∃ fault, answer = .error fault ∧ t' = t :=
    fun hremove => answers_remove (FileProgram.runs_single.mp hremove)
  obtain ⟨_, rfl, hremove⟩ | ⟨fault, rfl, hremove⟩ := runs_orFailAt.mp hr
  · obtain ⟨-, hremove⟩ | ⟨_, heq, -⟩ := hanswer hremove
    · obtain ⟨hext, -, hshape⟩ := remove_eq_ok ht hremove
      have hfiles := file?_of_update hshape
      refine ⟨⟨hext, fun place => ?_⟩, .inl ⟨rfl, ?_⟩⟩
      · rw [hfiles, Function.update_apply]
        split_ifs with hplace
        · exact .inr ⟨hplace, rfl⟩
        · exact .inl rfl
      · rw [hfiles, Function.update_self]
        rfl
    · cases heq
  · obtain ⟨heq, -⟩ | ⟨_, -, rfl⟩ := hanswer hremove
    · cases heq
    · exact ⟨.refl ht, .inr ⟨⟨_, rfl⟩, rfl⟩⟩

theorem runs_enter {directory : String} {f : Found} {r : Except FileFailure Unit}
    (hr : (orFailAt directory (FileProgram.enter f)).run.Runs t r t') : t' = t := by
  have hopen : ∀ {answer}, (FileProgram.enter f).Runs t answer t' → t' = t := by
    intro answer henter
    obtain ⟨_, _, hopen, hpure⟩ := FileProgram.runs_bind.mp henter
    obtain ⟨-, rfl⟩ := FileProgram.runs_pure.mp hpure
    exact answers_openDirectory (FileProgram.runs_single.mp hopen)
  obtain ⟨_, -, henter⟩ | ⟨_, -, henter⟩ := runs_orFailAt.mp hr
  · exact hopen henter
  · exact hopen henter

theorem runs_clearFound (ht : Extends base t) {directory : String} {f : Found}
    {r : Except FileFailure Nat} (hr : (clearFound directory f).run.Runs t r t') :
    Sheds (· = base.place f.path) t t' ∧
      ∀ n, r = .ok n → f.kind ≠ .directory → t'.file? (base.place f.path) = none := by
  rw [clearFound] at hr
  rw [← ht.place]
  split_ifs at hr with hkind
  · have hsame : t' = t := by
      obtain ⟨_, henter, -⟩ | ⟨_, _, henter, hpure⟩ := runs_bind.mp hr
      · exact runs_enter henter
      · rw [(runs_pure.mp hpure).2]
        exact runs_enter henter
    rw [hsame]
    exact ⟨.refl ht.plain, fun _ _ hnot => absurd (eq_of_beq hkind) hnot⟩
  · obtain ⟨_, hremove, rfl⟩ | ⟨_, _, hremove, hpure⟩ := runs_bind.mp hr
    · exact ⟨(runs_remove ht.plain hremove).1, fun _ heq => by cases heq⟩
    · obtain ⟨rfl, rfl⟩ := runs_pure.mp hpure
      obtain ⟨hsheds, ⟨-, hnone⟩ | ⟨⟨_, heq⟩, -⟩⟩ := runs_remove ht.plain hremove
      · exact ⟨hsheds, fun _ _ _ => hnone⟩
      · cases heq

/-- What a walk found is removed, and then no file is left where it went. -/
theorem runs_clearWalked (ht : Extends base t) {directory : String} {found : List Found}
    (hwalk : t.walk directory = .ok found) {r : Except FileFailure Nat}
    (hr : (found.foldlM (fun n f => do pure (n + (← clearFound directory f))) 0).run.Runs t r t') :
    Sheds (base.place directory <+: ·) t t' ∧ ∀ n, r = .ok n →
      ∀ place, base.place directory <+: place → t'.file? place = none := by
  obtain ⟨hwithin, hall⟩ := mem_walk ht.plain hwalk
  simp only [ht.place] at hwithin hall
  have hkeep : ∀ (f : Found) (u u' : FileTree) (g : Place → Prop),
      (f.kind ≠ .directory → u.file? (base.place f.path) = none) → Sheds g u u' →
      f.kind ≠ .directory → u'.file? (base.place f.path) = none :=
    fun _ _ _ _ hnone hsheds hnot => hsheds.file?_eq_none (hnone hnot)
  obtain ⟨hsheds, hdone⟩ := runs_total hkeep (fun _ _ _ _ hu hr => runs_clearFound hu hr) ht hr
  refine ⟨hsheds.mono ?_, fun n hn place habove => ?_⟩
  · rintro _ ⟨f, hf, rfl⟩
    exact (hwithin f hf).1
  · cases hcontent : t.file? place with
    | none => exact hsheds.file?_eq_none hcontent
    | some content =>
      obtain ⟨f, hf, hfile, rfl⟩ := hall place content habove hcontent
      exact hdone n hn f hf (by simp [hfile])

theorem runs_clearFiles (ht : Extends base t) {directory : String} {r : Except FileFailure Nat}
    (hr : (clearFiles directory).run.Runs t r t') :
    Sheds (base.place directory <+: ·) t t' ∧ ∀ n, r = .ok n →
      base.Climbs (base.base directory) (pieces directory) → t'.Emptied directory := by
  rw [clearFiles] at hr
  obtain ⟨_, hlook, -⟩ | ⟨kind, u, hlook, hrest⟩ := runs_bind.mp hr
  · obtain ⟨_, heq, -⟩ := runs_look.mp hlook
    cases heq
  obtain ⟨_, heq, hlook⟩ := runs_look.mp hlook
  obtain rfl := Except.ok.inj heq
  obtain ⟨rfl, rfl⟩ := answers_kind (FileProgram.runs_single.mp hlook)
  split_ifs at hrest with hkind
  · obtain ⟨-, rfl⟩ := runs_pure.mp hrest
    exact ⟨.refl ht.plain, fun _ _ hclimbs =>
      emptied_of_kindAt ht.plain (ht.climbs hclimbs) (Option.isNone_iff_eq_none.mp hkind)⟩
  obtain ⟨_, hwalk, rfl⟩ | ⟨found, v, hwalk, hloop⟩ := runs_bind.mp hrest
  · obtain ⟨_, heq, -⟩ | ⟨_, -, hwalk⟩ := runs_orFailAt.mp hwalk
    · cases heq
    · obtain ⟨rfl, -⟩ := answers_walk (FileProgram.runs_single.mp hwalk)
      exact ⟨.refl ht.plain, fun _ heq => by cases heq⟩
  · obtain ⟨_, heq, hwalk⟩ | ⟨_, heq, -⟩ := runs_orFailAt.mp hwalk
    · obtain rfl := Except.ok.inj heq
      obtain ⟨rfl, hfound⟩ := answers_walk (FileProgram.runs_single.mp hwalk)
      obtain ⟨hsheds, hnone⟩ := runs_clearWalked ht (hfound found rfl) hloop
      refine ⟨hsheds, fun n hn _ _ _ _ place _ habove _ => hnone n hn place ?_⟩
      rwa [hsheds.toExtends.place, ht.place] at habove
    · cases heq

/-- All directories of a list. -/
theorem runs_clearFiles_all (ht : t.Plain) {directories : List String} {n : Nat}
    {r : Except FileFailure Nat}
    (hr : (directories.foldlM (fun n directory => do pure (n + (← clearFiles directory))) n).run.Runs
      t r t') :
    Sheds (fun place => ∃ directory ∈ directories, t.place directory <+: place) t t' ∧
      ∀ k, r = .ok k → ∀ directory ∈ directories,
        t.Climbs (t.base directory) (pieces directory) → t'.Emptied directory :=
  runs_total (fun _ _ _ _ hemptied hsheds hclimbs => (hemptied hclimbs).sheds hsheds)
    (fun _ _ _ _ hu hr => runs_clearFiles hu hr) ht.extends_self hr

end Output

end RpcScaffold
