import RpcScaffold.CopiedSources
import RpcScaffold.Proofs.Files.Runs

/-!
# Programs that only look

Such a program leaves the tree as it is, whatever it is answered. A fault is never passed over: if the
program succeeds, no operation had a fault of its own.
-/

namespace RpcScaffold

variable {ε α β : Type}

def Succeeds (r : Except ε α) : Prop := ∃ a, r = .ok a

@[simp] theorem succeeds_ok (a : α) : Succeeds (.ok a : Except ε α) := ⟨a, rfl⟩

@[simp] theorem not_succeeds_error (e : ε) : ¬ Succeeds (.error e : Except ε α) := by
  rintro ⟨a, ha⟩
  cases ha

namespace FileProgram

theorem runOn_bind (p : FileProgram α) (f : α → FileProgram β) (t : FileTree) :
    (p >>= f).runOn t = (f (p.runOn t).1).runOn (p.runOn t).2 := by
  induction p generalizing t with
  | done a => rfl
  | step op next ih => exact ih _ _

/-- All runs leave the tree as it is. Those with a good result are the one without faults. -/
def Looks (p : FileProgram α) (good : α → Prop) : Prop :=
  ∀ t a t', p.Runs t a t' → t' = t ∧ (good a → p.runOn t = (a, t))

theorem looks_pure (a : α) (good : α → Prop) : (pure a : FileProgram α).Looks good := by
  intro t b t' h
  obtain ⟨rfl, rfl⟩ := runs_pure.mp h
  exact ⟨rfl, fun _ => rfl⟩

/-- Nothing good comes after a result that is not good. -/
theorem Looks.bind {p : FileProgram α} {f : α → FileProgram β} {good : α → Prop} {good' : β → Prop}
    (hp : p.Looks good) (hf : ∀ a, (f a).Looks good')
    (hbad : ∀ a t b t', ¬ good a → (f a).Runs t b t' → ¬ good' b) : (p >>= f).Looks good' := by
  intro t b t' h
  obtain ⟨a, u, hfirst, hrest⟩ := runs_bind.mp h
  obtain ⟨rfl, hrun⟩ := hp t a u hfirst
  obtain ⟨rfl, hrun'⟩ := hf a u b t' hrest
  refine ⟨rfl, fun hb => ?_⟩
  have ha : good a := by
    by_contra hnot
    exact hbad a t' b t' hnot hrest hb
  rw [runOn_bind, hrun ha]
  exact hrun' hb

/-- After a failure the program is done, and its result is not good. -/
theorem Looks.bind_ok {p : FileProgram (Except ε α)} {f : Except ε α → FileProgram β}
    {good : β → Prop} (hp : p.Looks Succeeds) (hok : ∀ a, (f (.ok a)).Looks good)
    (hbad : ∀ e, ∃ b, f (.error e) = pure b ∧ ¬ good b) : (p >>= f).Looks good := by
  refine hp.bind ?_ ?_
  · rintro (e | a)
    · obtain ⟨b, hb, -⟩ := hbad e
      rw [hb]
      exact looks_pure b good
    · exact hok a
  · rintro (e | a) t b t' hnot hrun
    · obtain ⟨b', hb', hbad⟩ := hbad e
      rw [hb'] at hrun
      rw [(runs_pure.mp hrun).1]
      exact hbad
    · exact absurd (succeeds_ok a) hnot

/-- Faults of the program are faults of what is made of it. -/
theorem Looks.mapError {ε' : Type} {p : FileProgram (Except ε α)} (hp : p.Looks Succeeds)
    (f : ε → ε') : (p >>= fun r => pure (r.mapError f)).Looks Succeeds :=
  hp.bind_ok (fun _ => looks_pure _ _) fun e => ⟨_, rfl, not_succeeds_error (f e)⟩

/-! ## Operations -/

end FileProgram

/-- The operation changes nothing. -/
def FileOp.isLook : FileOp → Bool
  | kind _ | walk _ | openDirectory _ | read _ => true
  | write _ _ | makeDirectory _ | rename _ _ | remove _ => false

theorem FileTree.perform_of_isLook {op : FileOp} (h : op.isLook = true) (t : FileTree) :
    (t.perform op).2 = t := by
  cases op with
  | kind | walk | openDirectory | read => rfl
  | write | makeDirectory | rename | remove => cases h

namespace FileProgram

theorem looks_single {op : FileOp} {good : op.Answer → Prop} (hop : op.isLook = true)
    (hbad : ∀ fault answer, op.refusal? fault = some answer → ¬ good answer) :
    (step op done).Looks good := by
  intro t a t' h
  have hsame := FileTree.perform_of_isLook hop t
  cases runs_single.mp h with
  | performed => exact ⟨hsame, fun _ => Prod.ext rfl hsame⟩
  | refused fault hrefused => exact ⟨rfl, fun ha => absurd ha (hbad fault a hrefused)⟩
  | torn => cases hop

variable (path : String)

theorem looks_kind : (kind path).Looks fun _ => True :=
  looks_single rfl fun _ _ h => by cases h

theorem looks_walk : (walk path).Looks Succeeds :=
  looks_single rfl fun fault _ h => by
    cases h
    exact not_succeeds_error fault

theorem looks_read : (read path).Looks Succeeds :=
  looks_single rfl fun fault _ h => by
    cases h
    exact not_succeeds_error fault

theorem looks_openDirectory : (openDirectory path).Looks Succeeds :=
  looks_single rfl fun fault _ h => by
    cases h
    exact not_succeeds_error fault

theorem looks_isDirectory : (isDirectory path).Looks fun _ => True :=
  (looks_kind path).bind (fun _ => looks_pure _ _) fun _ _ _ _ hnot => absurd trivial hnot

theorem looks_enter (f : Found) : (enter f).Looks Succeeds :=
  (looks_openDirectory f.path).mapError _

end FileProgram

/-! ## Actions -/

namespace FileAction

open FileProgram

/-- The action looks, and does not go on after a fault. -/
def OnlyLooks (x : ExceptT ε FileProgram α) : Prop := x.run.Looks Succeeds

theorem onlyLooks_mk_pure (r : Except ε α) :
    OnlyLooks (ExceptT.mk (pure r) : ExceptT ε FileProgram α) := looks_pure r _

theorem OnlyLooks.bind {x : ExceptT ε FileProgram α} {f : α → ExceptT ε FileProgram β}
    (hx : OnlyLooks x) (hf : ∀ a, OnlyLooks (f a)) : OnlyLooks (x >>= f) := by
  rw [OnlyLooks, ExceptT.run_bind]
  exact Looks.bind_ok hx hf fun e => ⟨_, rfl, not_succeeds_error e⟩

theorem onlyLooks_orFailAt {p : FileProgram (Except FileFault α)} (hp : p.Looks Succeeds)
    (path : String) : OnlyLooks (orFailAt path p) := hp.mapError _

end FileAction

/-! ## Sources to copy -/

namespace CopiedSources

open FileProgram FileAction

theorem onlyLooks_readText (path : String) : OnlyLooks (readText path) := by
  refine onlyLooks_orFailAt ?_ path
  refine (looks_read path).bind_ok (fun content => ?_) fun fault =>
    ⟨_, rfl, not_succeeds_error fault⟩
  dsimp only
  split <;> exact looks_pure _ _

theorem onlyLooks_stage (target : String) (b : Bundle) (f : Found) :
    OnlyLooks (stage target b f) :=
  (onlyLooks_readText f.path).bind fun _ => onlyLooks_mk_pure _

/-- The bundle beside a failure does not count. -/
theorem looks_stageAll (target : String) (b : Bundle) (count : Nat) (found : List Found) :
    (stageAll target b count found).Looks fun r => Succeeds r.1 := by
  induction found generalizing b count with
  | nil => exact looks_pure _ _
  | cons f rest ih =>
    rw [stageAll]
    split_ifs
    · exact (looks_enter f).bind_ok (fun _ => ih b count) fun fault =>
        ⟨_, rfl, not_succeeds_error _⟩
    · exact Looks.bind_ok (onlyLooks_stage target b f) (fun next => ih next (count + 1))
        fun failure => ⟨_, rfl, not_succeeds_error failure⟩
    · exact ih b count

theorem looks_collect (directory target : String) (b : Bundle) :
    (collect directory target b).Looks fun r => Succeeds r.1 := by
  refine (looks_isDirectory directory).bind ?_ fun _ _ _ _ hnot => absurd trivial hnot
  intro isDirectory
  split_ifs
  · exact (looks_walk directory).bind_ok (fun found => looks_stageAll target b 0 found)
      fun fault => ⟨_, rfl, not_succeeds_error _⟩
  · exact looks_pure _ _

end CopiedSources

end RpcScaffold
