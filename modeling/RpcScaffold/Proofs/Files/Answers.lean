import RpcScaffold.Proofs.Files.Looking

/-!
# Programs that are answered

What a program that only looks comes to depends on the answers to its operations and on nothing
else. On a tree these are the answers of the tree, which stays as it is.
-/

namespace RpcScaffold

variable {ε α β : Type}

/-- What the tree answers. -/
def FileTree.answers (t : FileTree) (op : FileOp) : op.Answer := (t.perform op).1

namespace FileProgram

/-- The result of a program whose operations have these answers. -/
def answered (answers : (op : FileOp) → op.Answer) : FileProgram α → α
  | done a => a
  | step op next => (next (answers op)).answered answers

/-- Every operation of the program is a look, whatever the answers are. -/
def Asks : FileProgram α → Prop
  | done _ => True
  | step op next => op.isLook = true ∧ ∀ answer, (next answer).Asks

theorem Asks.runOn {p : FileProgram α} (h : p.Asks) (t : FileTree) :
    p.runOn t = (p.answered t.answers, t) := by
  induction p with
  | done a => rfl
  | step op next ih =>
    obtain ⟨hlook, hnext⟩ := h
    rw [FileProgram.runOn, FileTree.perform_of_isLook hlook t]
    exact ih _ (hnext _)

theorem Asks.bind {p : FileProgram α} {f : α → FileProgram β} (h : p.Asks)
    (hf : ∀ a, (f a).Asks) : (p >>= f).Asks := by
  induction p with
  | done a => exact hf a
  | step op next ih => exact ⟨h.1, fun answer => ih answer (h.2 answer)⟩

theorem asks_single {op : FileOp} (h : op.isLook = true) : (step op done).Asks :=
  ⟨h, fun _ => trivial⟩

theorem answered_bind (answers : (op : FileOp) → op.Answer) (p : FileProgram α)
    (f : α → FileProgram β) :
    (p >>= f).answered answers = (f (p.answered answers)).answered answers := by
  induction p with
  | done a => rfl
  | step op next ih => exact ih _

end FileProgram

namespace FileAction

open FileProgram

theorem asks_bind {x : ExceptT ε FileProgram α} {f : α → ExceptT ε FileProgram β} (h : x.run.Asks)
    (hf : ∀ a, (f a).run.Asks) : (x >>= f).run.Asks := by
  rw [ExceptT.run_bind]
  refine h.bind fun r => ?_
  cases r with
  | ok a => exact hf a
  | error e => trivial

theorem answered_bind_ok {answers : (op : FileOp) → op.Answer} {x : ExceptT ε FileProgram α} {a : α}
    (h : x.run.answered answers = .ok a) (f : α → ExceptT ε FileProgram β) :
    (x >>= f).run.answered answers = (f a).run.answered answers := by
  rw [ExceptT.run_bind, answered_bind, h]

end FileAction

namespace CopiedSources

open FileProgram FileAction

theorem asks_stage (target : String) (b : Bundle) (f : Found) : (stage target b f).run.Asks := by
  refine asks_bind ?_ fun text => trivial
  refine Asks.bind (Asks.bind (asks_single rfl) fun r => ?_) fun r => trivial
  split
  · trivial
  · split <;> trivial

theorem asks_stageAll (target : String) (b : Bundle) (count : Nat) (found : List Found) :
    (stageAll target b count found).Asks := by
  induction found generalizing b count with
  | nil => trivial
  | cons f rest ih =>
    rw [stageAll]
    split_ifs
    · refine Asks.bind (Asks.bind (asks_single rfl) fun _ => trivial) fun r => ?_
      cases r with
      | ok _ => exact ih b count
      | error fault => trivial
    · refine (asks_stage target b f).bind fun r => ?_
      cases r with
      | ok next => exact ih next (count + 1)
      | error failure => trivial
    · exact ih b count

/-- On a tree, sources are collected from what it answers. -/
theorem runOn_collect (directory target : String) (b : Bundle) (t : FileTree) :
    (collect directory target b).runOn t =
      ((collect directory target b).answered t.answers, t) := by
  apply Asks.runOn
  refine Asks.bind (Asks.bind (asks_single rfl) fun _ => trivial) fun isDirectory => ?_
  split_ifs
  · refine (asks_single rfl).bind fun r => ?_
    cases r with
    | ok found => exact asks_stageAll target b 0 found
    | error fault => trivial
  · trivial

end CopiedSources

end RpcScaffold
