import RpcScaffold.Files.Failure
import RpcScaffold.Proofs.Files.Effects

/-!
# Runs with faults

A run takes one operation after the other. Each does what it does on the tree, or fails for reasons
of its own. Only a look at the kind of an entry never fails.
-/

namespace RpcScaffold

/-- The answer of an operation that fails. -/
def FileOp.refusal? (fault : FileFault) : (op : FileOp) → Option op.Answer
  | .kind _ => none
  | .walk _ | .openDirectory _ | .read _ | .write _ _ | .makeDirectory _ | .rename _ _ | .remove _ =>
    some (.error fault)

/-- The answers that an operation may have on the tree, with the tree after it. -/
inductive FileTree.Answers (t : FileTree) : (op : FileOp) → op.Answer → FileTree → Prop
  | performed (op : FileOp) : t.Answers op (t.perform op).1 (t.perform op).2
  | refused {op : FileOp} {answer : op.Answer} (fault : FileFault)
      (h : op.refusal? fault = some answer) : t.Answers op answer t
  /-- A write that fails may have written something. -/
  | torn {path : String} {content part : ByteArray} {t' : FileTree} (fault : FileFault)
      (h : t.write path part = .ok t') : t.Answers (.write path content) (.error fault) t'

namespace FileProgram

variable {α β : Type} {t t' : FileTree}

/-- The program may run from the first tree to the second, with that result. -/
inductive Runs : FileProgram α → FileTree → α → FileTree → Prop
  | done (result : α) (t : FileTree) : Runs (.done result) t result t
  | step {op : FileOp} {next : op.Answer → FileProgram α} {t u t' : FileTree} {answer : op.Answer}
      {result : α} (h : t.Answers op answer u) (rest : Runs (next answer) u result t') :
      Runs (.step op next) t result t'

/-- What a program does without faults of its own is one of its runs. -/
theorem runs_runOn (p : FileProgram α) (t : FileTree) : p.Runs t (p.runOn t).1 (p.runOn t).2 := by
  induction p generalizing t with
  | done result => exact .done result t
  | step op next ih => exact .step (.performed op) (ih _ _)

theorem runs_pure {a b : α} : (pure a : FileProgram α).Runs t b t' ↔ b = a ∧ t' = t := by
  constructor
  · intro h
    cases h
    exact ⟨rfl, rfl⟩
  · rintro ⟨rfl, rfl⟩
    exact .done b t'

theorem runs_bind {p : FileProgram α} {f : α → FileProgram β} {b : β} :
    (p >>= f).Runs t b t' ↔ ∃ a u, p.Runs t a u ∧ (f a).Runs u b t' := by
  induction p generalizing t with
  | done a =>
    constructor
    · intro h
      exact ⟨a, t, .done a t, h⟩
    · rintro ⟨_, _, hdone, h⟩
      cases hdone
      exact h
  | step op next ih =>
    constructor
    · intro h
      cases h with
      | step hop hrest =>
        obtain ⟨a, u, hnext, h⟩ := (ih _).mp hrest
        exact ⟨a, u, .step hop hnext, h⟩
    · rintro ⟨a, u, hstep, h⟩
      cases hstep with
      | step hop hnext => exact .step hop ((ih _).mpr ⟨a, u, hnext, h⟩)

theorem runs_single {op : FileOp} {answer : op.Answer} :
    (step op done).Runs t answer t' ↔ t.Answers op answer t' := by
  constructor
  · intro h
    cases h with
    | step hop hdone =>
      cases hdone
      exact hop
  · intro h
    exact .step h (.done _ _)

end FileProgram

/-! ## Actions -/

namespace FileAction

variable {ε α β : Type} {t t' : FileTree}

/-- An action fails with the first of its failures. -/
theorem runs_bind {x : ExceptT ε FileProgram α} {f : α → ExceptT ε FileProgram β}
    {r : Except ε β} : (x >>= f).run.Runs t r t' ↔
      (∃ e, x.run.Runs t (.error e) t' ∧ r = .error e) ∨
      ∃ a u, x.run.Runs t (.ok a) u ∧ (f a).run.Runs u r t' := by
  rw [ExceptT.run_bind, FileProgram.runs_bind]
  constructor
  · rintro ⟨a | a, u, hx, hf⟩
    · obtain ⟨rfl, rfl⟩ := FileProgram.runs_pure.mp hf
      exact .inl ⟨a, hx, rfl⟩
    · exact .inr ⟨a, u, hx, hf⟩
  · rintro (⟨e, hx, rfl⟩ | ⟨a, u, hx, hf⟩)
    · exact ⟨_, _, hx, FileProgram.runs_pure.mpr ⟨rfl, rfl⟩⟩
    · exact ⟨_, _, hx, hf⟩

theorem runs_bind_ok {x : ExceptT ε FileProgram α} {f : α → ExceptT ε FileProgram β} {b : β} :
    (x >>= f).run.Runs t (.ok b) t' ↔
      ∃ a u, x.run.Runs t (.ok a) u ∧ (f a).run.Runs u (.ok b) t' := by
  rw [runs_bind]
  constructor
  · rintro (⟨_, -, heq⟩ | hok)
    · cases heq
    · exact hok
  · exact .inr

theorem runs_pure {a : α} {r : Except ε α} :
    (pure a : ExceptT ε FileProgram α).run.Runs t r t' ↔ r = .ok a ∧ t' = t :=
  FileProgram.runs_pure

theorem runs_orFailAt {path : String} {p : FileProgram (Except FileFault α)}
    {r : Except FileFailure α} : (orFailAt path p).run.Runs t r t' ↔
      (∃ a, r = .ok a ∧ p.Runs t (.ok a) t') ∨
      ∃ fault, r = .error (.file path fault) ∧ p.Runs t (.error fault) t' := by
  have hrun : (orFailAt path p).run = p >>= fun r => pure (r.mapError (.file path)) := rfl
  rw [hrun, FileProgram.runs_bind]
  constructor
  · rintro ⟨fault | a, u, hp, hr⟩
    · obtain ⟨rfl, rfl⟩ := FileProgram.runs_pure.mp hr
      exact .inr ⟨fault, rfl, hp⟩
    · obtain ⟨rfl, rfl⟩ := FileProgram.runs_pure.mp hr
      exact .inl ⟨a, rfl, hp⟩
  · rintro (⟨a, rfl, hp⟩ | ⟨fault, rfl, hp⟩)
    · exact ⟨_, _, hp, FileProgram.runs_pure.mpr ⟨rfl, rfl⟩⟩
    · exact ⟨_, _, hp, FileProgram.runs_pure.mpr ⟨rfl, rfl⟩⟩

theorem runs_look {p : FileProgram α} {r : Except FileFailure α} :
    (look p).run.Runs t r t' ↔ ∃ a, r = .ok a ∧ p.Runs t a t' := by
  have hrun : (look p).run = p >>= fun a => pure (.ok a) := rfl
  rw [hrun, FileProgram.runs_bind]
  constructor
  · rintro ⟨a, u, hp, hr⟩
    obtain ⟨rfl, rfl⟩ := FileProgram.runs_pure.mp hr
    exact ⟨a, rfl, hp⟩
  · rintro ⟨a, rfl, hp⟩
    exact ⟨a, t', hp, FileProgram.runs_pure.mpr ⟨rfl, rfl⟩⟩

/-- Whenever the action fails, a fault of a file is the reason. -/
def FailsAtFiles (x : FileAction α) : Prop :=
  ∀ t e t', x.run.Runs t (.error e) t' → ∃ path fault, e = .file path fault

theorem failsAtFiles_pure (a : α) : FailsAtFiles (pure a : FileAction α) := by
  intro t e t' hr
  cases (runs_pure.mp hr).1

theorem failsAtFiles_orFailAt (path : String) (p : FileProgram (Except FileFault α)) :
    FailsAtFiles (orFailAt path p) := by
  intro t e t' hr
  obtain ⟨_, heq, -⟩ | ⟨fault, heq, -⟩ := runs_orFailAt.mp hr
  · cases heq
  · exact ⟨path, fault, Except.error.inj heq⟩

theorem failsAtFiles_look (p : FileProgram α) : FailsAtFiles (look p) := by
  intro t e t' hr
  obtain ⟨_, heq, -⟩ := runs_look.mp hr
  cases heq

theorem FailsAtFiles.bind {x : FileAction α} {f : α → FileAction β} (hx : FailsAtFiles x)
    (hf : ∀ a, FailsAtFiles (f a)) : FailsAtFiles (x >>= f) := by
  intro t e t' hr
  obtain ⟨_, hfirst, heq⟩ | ⟨a, u, -, hrest⟩ := runs_bind.mp hr
  · rw [Except.error.inj heq]
    exact hx _ _ _ hfirst
  · exact hf a _ _ _ hrest

theorem failsAtFiles_foldlM {f : β → α → FileAction β} (hf : ∀ b a, FailsAtFiles (f b a)) (b : β)
    (xs : List α) : FailsAtFiles (xs.foldlM f b) := by
  induction xs generalizing b with
  | nil => exact failsAtFiles_pure b
  | cons x rest ih =>
    rw [List.foldlM_cons]
    exact (hf b x).bind fun b' => ih b'

theorem failsAtFiles_forM {f : α → FileAction PUnit} (hf : ∀ a, FailsAtFiles (f a))
    (xs : List α) : FailsAtFiles (xs.forM f) := by
  induction xs with
  | nil => exact failsAtFiles_pure _
  | cons x rest ih => exact (hf x).bind fun _ => ih

end FileAction

/-! ## Operations -/

namespace FileTree

variable {t t' : FileTree}

theorem answers_kind {path : String} {answer : Option FileKind}
    (h : t.Answers (.kind path) answer t') : answer = t.kindAt path ∧ t' = t := by
  cases h with
  | performed => exact ⟨rfl, rfl⟩
  | refused fault h => cases h

theorem answers_walk {path : String} {answer : Except FileFault (List Found)}
    (h : t.Answers (.walk path) answer t') :
    t' = t ∧ ∀ found, answer = .ok found → t.walk path = .ok found := by
  cases h with
  | performed => exact ⟨rfl, fun _ hfound => hfound⟩
  | refused fault h =>
    obtain rfl := Option.some.inj h
    exact ⟨rfl, fun _ hfound => by cases hfound⟩

theorem answers_openDirectory {path : String} {answer : Except FileFault Unit}
    (h : t.Answers (.openDirectory path) answer t') : t' = t := by
  cases h with
  | performed => rfl
  | refused fault h => rfl

/-- A change is made, or nothing is. -/
theorem change_cases (t : FileTree) (result : Except FileFault FileTree) :
    ((t.change result).1 = .ok () ∧ result = .ok (t.change result).2) ∨
      ∃ fault, (t.change result).1 = .error fault ∧ (t.change result).2 = t := by
  cases result with
  | ok next => exact .inl ⟨rfl, rfl⟩
  | error fault => exact .inr ⟨fault, rfl, rfl⟩

theorem answers_write {path : String} {content : ByteArray} {answer : Except FileFault Unit}
    (h : t.Answers (.write path content) answer t') :
    (answer = .ok () ∧ t.write path content = .ok t') ∨
      ∃ fault, answer = .error fault ∧ (t' = t ∨ ∃ part, t.write path part = .ok t') := by
  cases h with
  | performed =>
    obtain hdone | ⟨fault, hanswer, hsame⟩ := t.change_cases (t.write path content)
    · exact .inl hdone
    · exact .inr ⟨fault, hanswer, .inl hsame⟩
  | refused fault h => exact .inr ⟨fault, (Option.some.inj h).symm, .inl rfl⟩
  | torn fault h => exact .inr ⟨fault, rfl, .inr ⟨_, h⟩⟩

theorem answers_makeDirectory {path : String} {answer : Except FileFault Unit}
    (h : t.Answers (.makeDirectory path) answer t') : t' = t ∨ t.makeDirectory path = .ok t' := by
  cases h with
  | performed =>
    obtain ⟨-, hdone⟩ | ⟨fault, -, hsame⟩ := t.change_cases (t.makeDirectory path)
    · exact .inr hdone
    · exact .inl hsame
  | refused fault h => exact .inl rfl

theorem answers_rename {source target : String} {answer : Except FileFault Unit}
    (h : t.Answers (.rename source target) answer t') :
    (answer = .ok () ∧ t.rename source target = .ok t') ∨
      ∃ fault, answer = .error fault ∧ t' = t := by
  cases h with
  | performed => exact t.change_cases (t.rename source target)
  | refused fault h => exact .inr ⟨fault, (Option.some.inj h).symm, rfl⟩

theorem answers_remove {path : String} {answer : Except FileFault Unit}
    (h : t.Answers (.remove path) answer t') :
    (answer = .ok () ∧ t.remove path = .ok t') ∨ ∃ fault, answer = .error fault ∧ t' = t := by
  cases h with
  | performed => exact t.change_cases (t.remove path)
  | refused fault h => exact .inr ⟨fault, (Option.some.inj h).symm, rfl⟩

end FileTree

end RpcScaffold
