import RpcScaffold.Proofs.Code.Lines

/-!
# What stands in rendered code

Code that is written by whole lines keeps each of them as a line of its text, under any guards, and
further steps leave what was written as it is.
-/

namespace RpcScaffold.Code

open Text

/-! ## Whole lines -/

mutual

/-- The step writes whole lines only, and does not fail. -/
def Step.isWhole : Step → Bool
  | .write _ | .fail => false
  | .block _ body | .braced body => areWhole body
  | _ => true

def areWhole : List Step → Bool
  | [] => true
  | s :: rest => s.isWhole && areWhole rest

end

mutual

/-- The lines of the step, without indentation, documentation and closing braces. -/
def Step.texts : Step → List String
  | .line s => [s]
  | .block header body => (header ++ " " ++ openBrace) :: textsOf body
  | .braced body => textsOf body
  | _ => []

def textsOf : List Step → List String
  | [] => []
  | s :: rest => s.texts ++ textsOf rest

end

theorem areWhole_iff {steps : List Step} :
    areWhole steps = true ↔ ∀ s ∈ steps, s.isWhole = true := by
  induction steps with
  | nil => simp [areWhole]
  | cons s rest ih => rw [areWhole, Bool.and_eq_true, List.forall_mem_cons, ih]

theorem areWhole_lines {α : Type} (f : α → String) (xs : List α) :
    areWhole (xs.map fun x => .line (f x)) = true := by
  rw [areWhole_iff, List.forall_mem_map]
  exact fun _ _ => rfl

theorem areWhole_append {as bs : List Step} :
    areWhole (as ++ bs) = true ↔ areWhole as = true ∧ areWhole bs = true := by
  simp only [areWhole_iff, List.forall_mem_append]

mutual

theorem isWhole_of_isPlain {s : Step} (h : s.isPlain = true) : s.isWhole = true := by
  cases s with
  | line | blank => rfl
  | block header body =>
    have hbody : arePlain body = true := h
    exact areWhole_of_arePlain hbody
  | braced body =>
    have hbody : arePlain body = true := h
    exact areWhole_of_arePlain hbody
  | _ => simp [Step.isPlain] at h

theorem areWhole_of_arePlain {steps : List Step} (h : arePlain steps = true) :
    areWhole steps = true := by
  cases steps with
  | nil => rfl
  | cons s rest =>
    rw [arePlain, Bool.and_eq_true] at h
    rw [areWhole, isWhole_of_isPlain h.1, areWhole_of_arePlain h.2, Bool.and_self]

end

theorem textsOf_eq (steps : List Step) : textsOf steps = steps.flatMap (·.texts) := by
  induction steps with
  | nil => rfl
  | cons s rest ih => rw [textsOf, List.flatMap_cons, ih]

theorem textsOf_append (as bs : List Step) : textsOf (as ++ bs) = textsOf as ++ textsOf bs := by
  rw [textsOf_eq, textsOf_eq, textsOf_eq, List.flatMap_append]

theorem mem_textsOf {steps : List Step} {s : Step} (hs : s ∈ steps) {line : String}
    (hline : line ∈ s.texts) : line ∈ textsOf steps := by
  rw [textsOf_eq, List.mem_flatMap]
  exact ⟨s, hs, hline⟩

/-! ## Running them -/

/-- From `w` to `w'` the lines were written. -/
structure Wrote (w w' : Writer) (lines : List String) : Prop where
  fresh : w'.fresh = true
  text : w'.text = w.text ++ printed lines

theorem Wrote.nil {w : Writer} (hw : w.fresh = true) : Wrote w w [] :=
  ⟨hw, by simp [printed]⟩

theorem Wrote.trans {w w' w'' : Writer} {as bs : List String} (h : Wrote w w' as)
    (h' : Wrote w' w'' bs) : Wrote w w'' (as ++ bs) := by
  refine ⟨h'.fresh, ?_⟩
  rw [h'.text, h.text, printed_append, String.append_assoc]

/-- Blank text is not indented. -/
theorem wrote_line {w : Writer} (hw : w.fresh = true) (s : String) :
    ∃ level, Wrote w (w.line s) [indentation level ++ s] := by
  cases hs : isBlankText s with
  | true =>
    refine ⟨0, rfl, ?_⟩
    simp [Writer.line, Writer.write, Writer.newline, hs, printed, indentation, String.append_assoc]
  | false =>
    refine ⟨w.level, rfl, ?_⟩
    rw [Writer.line_eq hw hs]
    rfl

theorem wrote_docLine {w : Writer} (hw : w.fresh = true) (s : List Char) :
    ∃ lines, Wrote w (w.docLine s) lines := by
  unfold Writer.docLine
  split_ifs
  · obtain ⟨level, h⟩ := wrote_line hw "//!"
    exact ⟨_, h⟩
  · obtain ⟨level, h⟩ := wrote_line hw ("//! " ++ String.ofList s)
    exact ⟨_, h⟩

theorem wrote_docLines {w : Writer} (hw : w.fresh = true) (doc : List (List Char)) :
    ∃ lines, Wrote w (doc.foldl Writer.docLine w) lines := by
  induction doc generalizing w with
  | nil => exact ⟨[], .nil hw⟩
  | cons s rest ih =>
    obtain ⟨first, hfirst⟩ := wrote_docLine hw s
    obtain ⟨others, hothers⟩ := ih hfirst.fresh
    exact ⟨_, hfirst.trans hothers⟩

/-- Whole lines were written, and each of `texts` is one of them but for its indentation. -/
def Shows (w w' : Writer) (texts : List String) : Prop :=
  ∃ lines, Wrote w w' lines ∧ ∀ text ∈ texts, ∃ level, indentation level ++ text ∈ lines

theorem Shows.append {w w' w'' : Writer} {as bs : List String} (h : Shows w w' as)
    (h' : Shows w' w'' bs) : Shows w w'' (as ++ bs) := by
  obtain ⟨lines, hlines, has⟩ := h
  obtain ⟨lines', hlines', hbs⟩ := h'
  refine ⟨_, hlines.trans hlines', ?_⟩
  intro text htext
  rcases List.mem_append.mp htext with htext | htext
  · obtain ⟨level, hlevel⟩ := has text htext
    exact ⟨level, List.mem_append_left _ hlevel⟩
  · obtain ⟨level, hlevel⟩ := hbs text htext
    exact ⟨level, List.mem_append_right _ hlevel⟩

theorem shows_line {w : Writer} (hw : w.fresh = true) (s : String) : Shows w (w.line s) [s] := by
  obtain ⟨level, h⟩ := wrote_line hw s
  exact ⟨_, h, by simp⟩

theorem Shows.of_wrote {w w' : Writer} {lines : List String} (h : Wrote w w' lines) :
    Shows w w' [] :=
  ⟨lines, h, by simp⟩

/-- Levels do not matter here. -/
theorem Shows.congr {v v' w w' : Writer} {texts : List String} (h : Shows v v' texts)
    (hv : w.text = v.text) (hv' : w'.text = v'.text) (hfresh : w'.fresh = v'.fresh) :
    Shows w w' texts := by
  obtain ⟨lines, hlines, htexts⟩ := h
  exact ⟨lines, ⟨hfresh.trans hlines.fresh, by rw [hv', hlines.text, hv]⟩, htexts⟩

theorem Shows.fresh {w w' : Writer} {texts : List String} (h : Shows w w' texts) :
    w'.fresh = true := by
  obtain ⟨_, hlines, -⟩ := h
  exact hlines.fresh

/-- The body of a block between the line that opens it and its closing brace. -/
theorem shows_body {w : Writer} (hw : w.fresh = true) (opening : String) {body : List Step}
    (hbody : ∀ v : Writer, v.fresh = true →
      ∃ v' guards, runAll v 0 body = ⟨v', guards, true⟩ ∧ Shows v v' (textsOf body))
    (guards : Nat) :
    ∃ w', (let r := runAll (w.line opening).hold 0 body
      finish (r.writer.drop (r.guards + 1)) guards r.ok) = ⟨w', guards, true⟩ ∧
      Shows w w' (opening :: textsOf body) := by
  have hopen := shows_line hw opening
  obtain ⟨v, held, hrun, hshows⟩ := hbody (w.line opening).hold hopen.fresh
  have hclose := shows_line (w := v.drop (held + 1)) hshows.fresh closeBrace
  refine ⟨(v.drop (held + 1)).line closeBrace, ?_, ?_⟩
  · rw [hrun]
    rfl
  · have hmiddle : Shows (w.line opening) (v.drop (held + 1)) (textsOf body) :=
      hshows.congr rfl rfl rfl
    obtain ⟨lines, hwrote, htexts⟩ := (hopen.append hmiddle).append hclose
    exact ⟨lines, hwrote, fun text htext => htexts text (List.mem_append_left _ htext)⟩

mutual

theorem run_whole {w : Writer} (hw : w.fresh = true) (guards : Nat) (s : Step)
    (h : s.isWhole = true) :
    ∃ w' guards', s.run w guards = ⟨w', guards', true⟩ ∧ Shows w w' s.texts := by
  cases s with
  | write s => simp [Step.isWhole] at h
  | line s => exact ⟨_, _, rfl, shows_line hw s⟩
  | blank =>
    have hblank : Wrote w w.newline [""] := ⟨rfl, by simp [Writer.newline, printed]⟩
    exact ⟨_, _, rfl, .of_wrote hblank⟩
  | moduleDoc s =>
    obtain ⟨lines, hlines⟩ := wrote_docLines hw (Text.lines s.toList)
    exact ⟨_, _, rfl, .of_wrote hlines⟩
  | indent => exact ⟨_, _, rfl, (Shows.of_wrote (.nil hw)).congr rfl rfl rfl⟩
  | dedent =>
    unfold Step.run
    split_ifs
    · exact ⟨_, _, rfl, .of_wrote (.nil hw)⟩
    · exact ⟨_, _, rfl, (Shows.of_wrote (.nil hw)).congr rfl rfl rfl⟩
  | block header body =>
    have hbody : ∀ v : Writer, v.fresh = true → _ := fun v hv => runAll_whole hv 0 body h
    obtain ⟨w', hrun, hshows⟩ := shows_body hw (header ++ " " ++ openBrace) hbody guards
    exact ⟨w', guards, hrun, hshows⟩
  | braced body =>
    have hbody : ∀ v : Writer, v.fresh = true → _ := fun v hv => runAll_whole hv 0 body h
    obtain ⟨w', hrun, lines, hwrote, htexts⟩ := shows_body hw openBrace hbody guards
    exact ⟨w', guards, hrun, lines, hwrote,
      fun text htext => htexts text (List.mem_cons_of_mem _ htext)⟩
  | fail => simp [Step.isWhole] at h

theorem runAll_whole {w : Writer} (hw : w.fresh = true) (guards : Nat) (steps : List Step)
    (h : areWhole steps = true) :
    ∃ w' guards', runAll w guards steps = ⟨w', guards', true⟩ ∧ Shows w w' (textsOf steps) := by
  cases steps with
  | nil => exact ⟨w, guards, rfl, .of_wrote (.nil hw)⟩
  | cons s rest =>
    rw [areWhole, Bool.and_eq_true] at h
    obtain ⟨v, held, hrun, hshows⟩ := run_whole hw guards s h.1
    obtain ⟨w', guards', hrest, hothers⟩ := runAll_whole hshows.fresh held rest h.2
    refine ⟨w', guards', ?_, hshows.append hothers⟩
    rw [runAll, hrun]
    exact hrest

end

/-! ## The text -/

/-- The line stands in the text, at some indentation. -/
def HasLine (text line : String) : Prop :=
  ∃ level, (indentation level ++ line).toList ∈ split (· == '\n') text.toList

theorem mem_split_printed {lines : List String} {line : String} (h : line ∈ lines)
    (hline : '\n' ∉ line.toList) : line.toList ∈ split (· == '\n') (printed lines).toList := by
  induction lines with
  | nil => simp at h
  | cons first rest ih =>
    have htext : (printed (first :: rest)).toList =
        first.toList ++ '\n' :: (printed rest).toList := by
      simp [printed]
    rw [htext, split_append rfl, List.mem_append]
    rcases List.mem_cons.mp h with rfl | h
    · left
      rw [split_of_forall_neg]
      · exact List.mem_singleton.mpr rfl
      · intro c hc
        simp only [beq_eq_false_iff_ne]
        rintro rfl
        exact hline hc
    · exact .inr (ih h)

theorem newline_not_mem_indentation (level : Nat) : '\n' ∉ (indentation level).toList := by
  simp [indentation]

theorem hasLine_render {steps : List Step} (h : areWhole steps = true) {line : String}
    (hline : line ∈ textsOf steps) (hnewline : '\n' ∉ line.toList) :
    HasLine (render steps) line := by
  obtain ⟨w, guards, hrun, lines, hwrote, htexts⟩ := runAll_whole (w := {}) rfl 0 steps h
  obtain ⟨level, hlevel⟩ := htexts line hline
  refine ⟨level, ?_⟩
  rw [render, hrun, hwrote.text]
  have hempty : ({} : Writer).text ++ printed lines = printed lines := String.empty_append
  rw [hempty]
  apply mem_split_printed hlevel
  rw [String.toList_append, List.mem_append]
  rintro (hmem | hmem)
  · exact newline_not_mem_indentation level hmem
  · exact hnewline hmem

theorem runAll_append {w w' : Writer} {guards guards' : Nat} {as : List Step}
    (h : runAll w guards as = ⟨w', guards', true⟩) (bs : List Step) :
    runAll w guards (as ++ bs) = runAll w' guards' bs := by
  induction as generalizing w guards with
  | nil =>
    rw [runAll] at h
    cases h
    rfl
  | cons s rest ih =>
    rw [runAll] at h
    rw [List.cons_append, runAll]
    cases hok : (s.run w guards).ok with
    | true =>
      simp only [hok, if_true] at h ⊢
      exact ih h
    | false =>
      simp only [hok, Bool.false_eq_true, if_false] at h
      rw [h] at hok
      cases hok

/-- More steps write behind what is there. -/
theorem render_append {as bs : List Step} (has : areWhole as = true) (hbs : areWhole bs = true) :
    ∃ more, render (as ++ bs) = render as ++ more := by
  obtain ⟨w, guards, hrun, hshows⟩ := runAll_whole (w := {}) rfl 0 as has
  obtain ⟨w', guards', hrun', lines, hwrote, -⟩ := runAll_whole hshows.fresh guards bs hbs
  refine ⟨printed lines, ?_⟩
  rw [render, runAll_append hrun, hrun', render, hrun]
  exact hwrote.text

end RpcScaffold.Code
