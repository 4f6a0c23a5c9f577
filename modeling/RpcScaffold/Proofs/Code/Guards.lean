import Mathlib.Data.List.Induction
import RpcScaffold.Code.Writer

/-!
# Guards and indentation

All guards of a program share one level. What a program does is taken apart into single acts on its
writer: putting text, ending a line, taking a guard and dropping one. At every moment the level is
the number of guards that were taken and not dropped, and every line is indented by it.
-/

namespace RpcScaffold.Code

/-! ## Acts -/

inductive Act
  | put (text : String)
  | newline
  | take
  | release
  deriving DecidableEq

def Writer.perform (w : Writer) : Act → Writer
  | .put s => w.write s
  | .newline => w.newline
  | .take => w.hold
  | .release => w.drop 1

def performAll (w : Writer) (acts : List Act) : Writer := acts.foldl Writer.perform w

theorem performAll_append (w : Writer) (as bs : List Act) :
    performAll w (as ++ bs) = performAll (performAll w as) bs := List.foldl_append

/-- What a list of steps did, the guards that it holds then, and whether all went well. -/
structure Trace where
  acts : List Act
  guards : Nat
  ok : Bool

def lineActs (s : String) : List Act := [.put s, .newline]

def docLineActs (s : List Char) : List Act :=
  lineActs (if s.isEmpty then "//!" else "//! " ++ String.ofList s)

/-- The guards of the body are dropped before the guard of the block, which is dropped before the
closing brace. -/
def Trace.enclosed (body : Trace) (opening : String) (guards : Nat) : Trace where
  acts := lineActs opening ++ .take :: body.acts ++ List.replicate (body.guards + 1) .release
    ++ if body.ok then lineActs closeBrace else []
  guards := guards
  ok := body.ok

mutual

def Step.trace (guards : Nat) : Step → Trace
  | .write s => ⟨[.put s], guards, true⟩
  | .line s => ⟨lineActs s, guards, true⟩
  | .blank => ⟨[.newline], guards, true⟩
  | .moduleDoc s => ⟨(Text.lines s.toList).flatMap docLineActs, guards, true⟩
  | .indent => ⟨[.take], guards + 1, true⟩
  | .dedent => if guards = 0 then ⟨[], 0, true⟩ else ⟨[.release], guards - 1, true⟩
  | .block header body => (traceAll 0 body).enclosed (header ++ " " ++ openBrace) guards
  | .braced body => (traceAll 0 body).enclosed openBrace guards
  | .fail => ⟨[], guards, false⟩

/-- The acts of the steps up to the first that fails. -/
def traceAll (guards : Nat) : List Step → Trace
  | [] => ⟨[], guards, true⟩
  | s :: rest =>
    let t := s.trace guards
    let others := traceAll t.guards rest
    if t.ok then ⟨t.acts ++ others.acts, others.guards, others.ok⟩ else t

end

/-! ## Runs are made of acts -/

/-- The state after the acts of a trace. -/
def Trace.perform (t : Trace) (w : Writer) : State := ⟨performAll w t.acts, t.guards, t.ok⟩

theorem performAll_releases (w : Writer) (k : Nat) :
    performAll w (List.replicate k .release) = w.drop k := by
  induction k generalizing w with
  | zero => rfl
  | succ k ih =>
    rw [List.replicate_succ, performAll, List.foldl_cons]
    change performAll (w.drop 1) _ = _
    rw [ih, Writer.drop, Writer.drop, Writer.drop, Nat.sub_sub, Nat.add_comm 1 k]

theorem performAll_docLines (w : Writer) (doc : List (List Char)) :
    performAll w (doc.flatMap docLineActs) = doc.foldl Writer.docLine w := by
  induction doc generalizing w with
  | nil => rfl
  | cons s rest ih =>
    have hline : performAll w (docLineActs s) = w.docLine s := by
      unfold Writer.docLine docLineActs
      split <;> rfl
    rw [List.flatMap_cons, performAll_append, hline, ih, List.foldl_cons]

theorem perform_enclosed (body : Trace) (opening : String) (guards : Nat) (w : Writer) :
    (body.enclosed opening guards).perform w =
      let r := body.perform (w.line opening).hold
      finish (r.writer.drop (r.guards + 1)) guards r.ok := by
  have hbody : performAll w (lineActs opening ++ .take :: body.acts) =
      performAll (w.line opening).hold body.acts := rfl
  simp only [Trace.perform, Trace.enclosed, performAll_append, performAll_releases, hbody]
  cases body.ok <;> rfl

mutual

theorem run_eq_perform (w : Writer) (guards : Nat) (s : Step) :
    s.run w guards = (s.trace guards).perform w := by
  cases s with
  | moduleDoc s =>
    rw [Step.run, Step.trace, Trace.perform, performAll_docLines]
    rfl
  | dedent =>
    rw [Step.run, Step.trace]
    split <;> rfl
  | block header body =>
    rw [Step.run, Step.trace, perform_enclosed, runAll_eq_perform]
  | braced body =>
    rw [Step.run, Step.trace, perform_enclosed, runAll_eq_perform]
  | _ => rfl

theorem runAll_eq_perform (w : Writer) (guards : Nat) (steps : List Step) :
    runAll w guards steps = (traceAll guards steps).perform w := by
  cases steps with
  | nil => rfl
  | cons s rest =>
    rw [runAll, traceAll, run_eq_perform w guards s]
    cases hok : (s.trace guards).ok with
    | true =>
      simp only [Trace.perform, hok, if_true, performAll_append]
      exact runAll_eq_perform _ _ rest
    | false => simp [Trace.perform, hok]

end

/-! ## Guards -/

/-- Along the acts, `g` guards become `g'`, and never is one dropped that is not held. -/
structure Balanced (g : Nat) (acts : List Act) (g' : Nat) : Prop where
  never : ∀ before after, acts = before ++ after →
    before.count .release ≤ g + before.count .take
  settled : g + acts.count .take = g' + acts.count .release

theorem Balanced.nil (g : Nat) : Balanced g [] g where
  never before after h := by
    obtain ⟨rfl, -⟩ := List.append_eq_nil_iff.mp h.symm
    simp
  settled := rfl

theorem balanced_singleton {g g' : Nat} {a : Act}
    (h : g + [a].count .take = g' + [a].count .release) : Balanced g [a] g' where
  never before after heq := by
    rcases List.singleton_eq_append_iff.mp heq with ⟨rfl, -⟩ | ⟨rfl, -⟩
    · simp
    · omega
  settled := h

theorem Balanced.append {g g' g'' : Nat} {as bs : List Act} (has : Balanced g as g')
    (hbs : Balanced g' bs g'') : Balanced g (as ++ bs) g'' where
  never before after h := by
    rcases List.append_eq_append_iff.mp h with ⟨more, rfl, hmore⟩ | ⟨more, hmore, -⟩
    · have hfirst := has.settled
      have hsecond := hbs.never more after hmore
      simp only [List.count_append]
      omega
    · exact has.never before more hmore
  settled := by
    have hfirst := has.settled
    have hsecond := hbs.settled
    simp only [List.count_append]
    omega

theorem Balanced.raise {g g' : Nat} {acts : List Act} (h : Balanced g acts g') (k : Nat) :
    Balanced (k + g) acts (k + g') where
  never before after heq := by
    have hnever := h.never before after heq
    omega
  settled := by
    have hsettled := h.settled
    omega

theorem balanced_releases (k : Nat) : Balanced k (List.replicate k .release) 0 := by
  induction k with
  | zero => exact .nil 0
  | succ k ih =>
    have hfirst : Balanced (k + 1) [.release] k := balanced_singleton (by simp)
    exact hfirst.append ih

theorem balanced_lineActs (g : Nat) (s : String) : Balanced g (lineActs s) g :=
  have hput : Balanced g [.put s] g := balanced_singleton (by simp)
  hput.append (balanced_singleton (by simp))

theorem balanced_docLines (g : Nat) (doc : List (List Char)) :
    Balanced g (doc.flatMap docLineActs) g := by
  induction doc with
  | nil => exact .nil g
  | cons s rest ih => exact (balanced_lineActs g _).append ih

/-- A block leaves the guards as they were, also if its body failed. -/
theorem Balanced.enclosed {body : Trace} (h : Balanced 0 body.acts body.guards) (opening : String)
    (guards g : Nat) : Balanced g (body.enclosed opening guards).acts g := by
  have htake : Balanced g [.take] (g + 1) := balanced_singleton (by simp)
  have hbody : Balanced (g + 1) body.acts (g + (body.guards + 1)) := by
    have hraise := h.raise (g + 1)
    rwa [Nat.add_zero, Nat.add_assoc, Nat.add_comm 1] at hraise
  have hreleases : Balanced (g + (body.guards + 1)) (List.replicate (body.guards + 1) .release) g :=
    (balanced_releases (body.guards + 1)).raise g
  have hclose : Balanced g (if body.ok then lineActs closeBrace else []) g := by
    split
    · exact balanced_lineActs g closeBrace
    · exact .nil g
  have hall := (((balanced_lineActs g opening).append htake).append hbody).append
    (hreleases.append hclose)
  simpa [Trace.enclosed] using hall

mutual

theorem balanced_trace (guards : Nat) (s : Step) :
    Balanced guards (s.trace guards).acts (s.trace guards).guards := by
  cases s with
  | write s => exact balanced_singleton (by simp [Step.trace])
  | line s => exact balanced_lineActs guards s
  | blank => exact balanced_singleton (by simp [Step.trace])
  | moduleDoc s => exact balanced_docLines guards _
  | indent => exact balanced_singleton (by simp [Step.trace])
  | dedent =>
    rw [Step.trace]
    split
    · next hzero =>
      rw [hzero]
      exact .nil 0
    · next hpos => exact balanced_singleton (by simp; omega)
  | block header body => exact (balanced_traceAll 0 body).enclosed _ guards guards
  | braced body => exact (balanced_traceAll 0 body).enclosed _ guards guards
  | fail => exact .nil guards

theorem balanced_traceAll (guards : Nat) (steps : List Step) :
    Balanced guards (traceAll guards steps).acts (traceAll guards steps).guards := by
  cases steps with
  | nil => exact .nil guards
  | cons s rest =>
    rw [traceAll]
    have hfirst := balanced_trace guards s
    split
    · exact hfirst.append (balanced_traceAll _ rest)
    · exact hfirst

end

/-! ## The level -/

@[simp] theorem level_write (w : Writer) (s : String) : (w.write s).level = w.level := by
  unfold Writer.write
  split <;> rfl

theorem level_perform {w : Writer} {a : Act} (h : a = .release → 0 < w.level) :
    (w.perform a).level + [a].count .release = w.level + [a].count .take := by
  cases a with
  | put s => simp [Writer.perform]
  | newline => rfl
  | take => rfl
  | release =>
    have hpos := h rfl
    simp only [Writer.perform, Writer.drop, List.count_singleton_self]
    simp
    omega

theorem Balanced.release_pos {g g' : Nat} {rest : List Act} (h : Balanced g (.release :: rest) g') :
    0 < g := by
  have hnever := h.never [.release] rest rfl
  simp only [List.count_singleton_self] at hnever
  simp at hnever
  omega

/-- A level that falls only where a guard is held counts the guards. -/
theorem Balanced.level_performAll {w : Writer} {acts : List Act} {g : Nat}
    (h : Balanced w.level acts g) : (performAll w acts).level = g := by
  induction acts generalizing w with
  | nil =>
    have hsettled := h.settled
    simpa [performAll] using hsettled
  | cons a rest ih =>
    have hlevel : (w.perform a).level + [a].count .release = w.level + [a].count .take := by
      apply level_perform
      rintro rfl
      exact h.release_pos
    have hcount (b : Act) (acts : List Act) : (a :: acts).count b = acts.count b + [a].count b := by
      rw [← List.singleton_append, List.count_append, Nat.add_comm]
    apply ih (w := w.perform a)
    constructor
    · intro before after heq
      have hnever := h.never (a :: before) after (by rw [heq]; rfl)
      rw [hcount .release before, hcount .take before] at hnever
      omega
    · have hsettled := h.settled
      rw [hcount .release rest, hcount .take rest] at hsettled
      omega

/-- The guards that were taken and not dropped. -/
def held (acts : List Act) : Nat := acts.count .take - acts.count .release

theorem Balanced.of_append {g g' : Nat} {before after : List Act}
    (h : Balanced g (before ++ after) g') :
    Balanced g before (g + before.count .take - before.count .release) where
  never first rest heq := h.never first (rest ++ after) (by rw [heq, List.append_assoc])
  settled := by
    have hnever := h.never before after rfl
    omega

theorem Balanced.level_eq_held {g : Nat} {before acts : List Act} (h : Balanced 0 acts g)
    (hbefore : before <+: acts) : (performAll {} before).level = held before := by
  obtain ⟨after, rfl⟩ := hbefore
  have hlevel := Balanced.level_performAll (w := {}) h.of_append
  rwa [Nat.zero_add] at hlevel

/-! ## Lines -/

/-- What was done since the last end of a line. -/
def onLine (acts : List Act) : List Act := (acts.reverse.takeWhile (· != .newline)).reverse

/-- No visible text was put on the line yet. -/
def IsFresh (acts : List Act) : Prop := ∀ s, .put s ∈ onLine acts → isBlankText s = true

theorem onLine_concat (acts : List Act) (a : Act) :
    onLine (acts ++ [a]) = if a = .newline then [] else onLine acts ++ [a] := by
  rw [onLine, List.reverse_append, List.reverse_singleton, List.singleton_append,
    List.takeWhile_cons]
  by_cases ha : a = .newline
  · simp [ha]
  · simp [ha, onLine]

theorem performAll_concat (w : Writer) (acts : List Act) (a : Act) :
    performAll w (acts ++ [a]) = (performAll w acts).perform a := performAll_append w acts [a]

theorem fresh_write (w : Writer) (s : String) :
    (w.write s).fresh = (w.fresh && isBlankText s) := by
  unfold Writer.write
  split <;> cases hw : w.fresh <;> simp_all

theorem fresh_iff (acts : List Act) : (performAll {} acts).fresh = true ↔ IsFresh acts := by
  induction acts using List.reverseRecOn with
  | nil => simp [performAll, IsFresh, onLine]
  | append_singleton acts a ih =>
    rw [performAll_concat, IsFresh, onLine_concat]
    cases a with
    | put t =>
      rw [Writer.perform, fresh_write, Bool.and_eq_true, ih, IsFresh]
      simp [or_imp, forall_and]
    | newline => simp [Writer.perform, Writer.newline]
    | take | release => simpa [Writer.perform, Writer.hold, Writer.drop, IsFresh] using ih

theorem write_visible {w : Writer} (hw : w.fresh = true) {s : String}
    (hs : isBlankText s = false) : (w.write s).text = w.text ++ indentation w.level ++ s := by
  simp [Writer.write, hw, hs]

theorem write_verbatim {w : Writer} {s : String} (h : isBlankText s = true ∨ ¬ w.fresh = true) :
    (w.write s).text = w.text ++ s := by
  have hneg : ¬ (w.fresh && !isBlankText s) = true := by
    rcases h with h | h <;> simp [h]
  rw [Writer.write, if_neg hneg]

/-- What was written stays, and the text comes last. -/
theorem exists_write_eq (w : Writer) (s : String) :
    ∃ more, (w.write s).text = w.text ++ more ++ s := by
  unfold Writer.write
  split
  · exact ⟨_, rfl⟩
  · exact ⟨"", by simp⟩

/-- The text behind the last line feed. -/
def lastLine (text : String) : List Char := (text.toList.reverse.takeWhile (· != '\n')).reverse

theorem lastLine_append {s : String} (h : '\n' ∉ s.toList) (text : String) :
    lastLine (text ++ s) = lastLine text ++ s.toList := by
  have hreverse : ∀ c ∈ s.toList.reverse, (c != '\n') = true := by
    intro c hc
    rw [bne_iff_ne]
    rintro rfl
    exact h (List.mem_reverse.mp hc)
  rw [lastLine, String.toList_append, List.reverse_append, List.takeWhile_append_of_pos hreverse,
    List.reverse_append, List.reverse_reverse]
  rfl

theorem lastLine_newline (text : String) : lastLine (text ++ "\n") = [] := by
  simp [lastLine]

/-- As long as no text brings a line feed of its own, a line is fresh if it is blank so far. -/
theorem isFresh_iff_blank {acts : List Act} (h : ∀ s, .put s ∈ acts → '\n' ∉ s.toList) :
    IsFresh acts ↔ (lastLine (performAll {} acts).text).all Text.isBlank = true := by
  rw [← fresh_iff]
  induction acts using List.reverseRecOn with
  | nil => simp [performAll, lastLine]
  | append_singleton acts a ih =>
    have ih := ih fun s hs => h s (List.mem_append_left _ hs)
    rw [performAll_concat]
    cases a with
    | put t =>
      have ht : '\n' ∉ t.toList := h t (List.mem_append_right _ List.mem_cons_self)
      obtain ⟨front, hfront⟩ := exists_write_eq (performAll {} acts) t
      rw [Writer.perform, fresh_write, Bool.and_eq_true, ih]
      cases hblank : isBlankText t with
      | true =>
        rw [write_verbatim (.inl hblank), lastLine_append ht, List.all_append, Bool.and_eq_true]
        exact and_congr_right fun _ => by simpa [isBlankText] using hblank
      | false =>
        have hnot : t.toList.all Text.isBlank = false := hblank
        rw [hfront, lastLine_append ht, List.all_append, hnot]
        simp
    | newline => simp [Writer.perform, Writer.newline, lastLine_newline]
    | take | release => simpa [Writer.perform, Writer.hold, Writer.drop] using ih

/-! ## Programs -/

theorem exists_perform_eq (w : Writer) (a : Act) : ∃ more, (w.perform a).text = w.text ++ more := by
  cases a with
  | put s =>
    obtain ⟨more, h⟩ := exists_write_eq w s
    exact ⟨more ++ s, by rw [Writer.perform, h, String.append_assoc]⟩
  | newline => exact ⟨_, rfl⟩
  | take | release => exact ⟨"", by simp [Writer.perform, Writer.hold, Writer.drop]⟩

theorem exists_performAll_eq (w : Writer) (acts : List Act) :
    ∃ more, (performAll w acts).text = w.text ++ more := by
  induction acts generalizing w with
  | nil => exact ⟨"", by simp [performAll]⟩
  | cons a rest ih =>
    obtain ⟨first, hfirst⟩ := exists_perform_eq w a
    obtain ⟨others, hothers⟩ := ih (w.perform a)
    refine ⟨first ++ others, ?_⟩
    rw [← String.append_assoc, ← hfirst]
    exact hothers

/-- A program goes on behind a step that failed. The steps of a body do not. -/
def attempt (start : State) (steps : List Step) : State :=
  steps.foldl (fun s step => step.run s.writer s.guards) start

def attemptActs (guards : Nat) : List Step → List Act
  | [] => []
  | s :: rest => (s.trace guards).acts ++ attemptActs (s.trace guards).guards rest

theorem writer_attempt (start : State) (steps : List Step) :
    (attempt start steps).writer = performAll start.writer (attemptActs start.guards steps) := by
  induction steps generalizing start with
  | nil => rfl
  | cons s rest ih =>
    rw [attempt, List.foldl_cons, run_eq_perform, attemptActs, performAll_append]
    exact ih _

theorem balanced_attemptActs (guards : Nat) (steps : List Step) :
    ∃ guards', Balanced guards (attemptActs guards steps) guards' := by
  induction steps generalizing guards with
  | nil => exact ⟨guards, .nil guards⟩
  | cons s rest ih =>
    obtain ⟨guards', h⟩ := ih (s.trace guards).guards
    exact ⟨guards', (balanced_trace guards s).append h⟩

/-- A run up to the first step that fails is one of these. -/
theorem exists_attempt_eq (w : Writer) (guards : Nat) (steps : List Step) :
    ∃ tried, tried <+: steps ∧ runAll w guards steps = attempt ⟨w, guards, true⟩ tried := by
  induction steps generalizing w guards with
  | nil => exact ⟨[], List.prefix_rfl, rfl⟩
  | cons s rest ih =>
    cases hok : (s.run w guards).ok with
    | true =>
      obtain ⟨tried, htried, hrun⟩ := ih (s.run w guards).writer (s.run w guards).guards
      refine ⟨s :: tried, List.cons_prefix_cons.mpr ⟨rfl, htried⟩, ?_⟩
      have hstate : (⟨(s.run w guards).writer, (s.run w guards).guards, true⟩ : State) =
          s.run w guards := by rw [← hok]
      rw [runAll, if_pos hok, hrun, hstate]
      rfl
    | false =>
      refine ⟨[s], List.cons_prefix_cons.mpr ⟨rfl, List.nil_prefix⟩, ?_⟩
      rw [runAll, if_neg (by simp [hok])]
      rfl

/-- The step has a body. -/
def Step.IsBlock : Step → Prop
  | .block _ _ | .braced _ => True
  | _ => False

theorem level_run_block {s : Step} (hs : s.IsBlock) (w : Writer) (guards : Nat) :
    (s.run w guards).writer.level = w.level := by
  have hbalanced : Balanced w.level (s.trace guards).acts w.level := by
    cases s with
    | block header body => exact (balanced_traceAll 0 body).enclosed _ guards w.level
    | braced body => exact (balanced_traceAll 0 body).enclosed _ guards w.level
    | _ => cases hs
  rw [run_eq_perform]
  exact hbalanced.level_performAll

/-- What a program does to its writer is a list of acts. At every moment the level is the number of
guards held, and it does not fall below zero. Visible text is indented by four spaces for each of
them where it is the first on its line, and other text is not. A step leaves what was written, and a
block also leaves the level, whether its body succeeds or fails. -/
theorem indents_by_guards (steps : List Step) :
    (attempt ⟨{}, 0, true⟩ steps).writer = performAll {} (attemptActs 0 steps) ∧
    (∃ tried, tried <+: steps ∧ runAll {} 0 steps = attempt ⟨{}, 0, true⟩ tried) ∧
    (∀ before, before <+: attemptActs 0 steps →
      (performAll {} before).level = held before ∧
      ((∀ s, .put s ∈ before → '\n' ∉ s.toList) →
        (IsFresh before ↔ (lastLine (performAll {} before).text).all Text.isBlank = true))) ∧
    (∀ before, before ++ [.release] <+: attemptActs 0 steps → 0 < (performAll {} before).level) ∧
    (∀ before s, before ++ [.put s] <+: attemptActs 0 steps →
      let w := performAll {} before
      (IsFresh before → isBlankText s = false → (w.write s).text =
        w.text ++ String.ofList (List.replicate (4 * held before) ' ') ++ s) ∧
      (isBlankText s = true ∨ ¬ IsFresh before → (w.write s).text = w.text ++ s)) ∧
    ∀ (s : Step) (w : Writer) (guards : Nat),
      (∃ more, (s.run w guards).writer.text = w.text ++ more) ∧
      (s.IsBlock → (s.run w guards).writer.level = w.level) := by
  obtain ⟨guards, hbalanced⟩ := balanced_attemptActs 0 steps
  refine ⟨writer_attempt _ steps, exists_attempt_eq {} 0 steps, ?_, ?_, ?_, ?_⟩
  · intro before hbefore
    exact ⟨hbalanced.level_eq_held hbefore, isFresh_iff_blank⟩
  · intro before hrelease
    obtain ⟨after, hacts⟩ := hrelease
    have hnever := hbalanced.never (before ++ [.release]) after hacts.symm
    rw [hbalanced.level_eq_held ((List.prefix_append before [.release]).trans ⟨after, hacts⟩), held]
    simp only [List.count_append, List.count_singleton_self] at hnever
    simp at hnever
    omega
  · intro before s hput
    have hlevel := hbalanced.level_eq_held ((List.prefix_append before [.put s]).trans hput)
    rw [← fresh_iff, ← hlevel]
    exact ⟨fun hfresh hs => write_visible hfresh hs, write_verbatim⟩
  · intro s w guards
    refine ⟨?_, fun hs => level_run_block hs w guards⟩
    rw [run_eq_perform]
    exact exists_performAll_eq w _

/-- The body fails under a guard of its own, and the program goes on. -/
def interrupted : List Step :=
  [.indent, .line "a", .block "b" [.indent, .write "x", .fail, .line "y"], .line "c"]

theorem indents_by_guards_interrupted :
    let before : List Act :=
      [.take, .put "a", .newline, .put "b \x7b", .newline, .take, .take]
    before ++ [.put "x"] <+: attemptActs 0 interrupted ∧ IsFresh before ∧
      isBlankText "x" = false ∧ held before = 3 ∧
      ((performAll {} before).write "x").text = "    a\n    b \x7b\n            x" ∧
      (attempt ⟨{}, 0, true⟩ interrupted).writer.text =
        "    a\n    b \x7b\n            xc\n" := by
  intro before
  obtain ⟨hrun, -, -, -, hput, -⟩ := indents_by_guards interrupted
  have hcut : before ++ [.put "x"] <+: attemptActs 0 interrupted := by decide +kernel
  have hfresh : IsFresh before := (fresh_iff before).mp (by decide +kernel)
  have hvisible : isBlankText "x" = false := by decide
  have htext := (hput before "x" hcut).1 hfresh hvisible
  refine ⟨hcut, hfresh, hvisible, by decide, ?_, ?_⟩
  · rw [htext]
    decide +kernel
  · rw [hrun]
    decide +kernel

end RpcScaffold.Code
