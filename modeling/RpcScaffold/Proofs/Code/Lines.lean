import Mathlib.Data.List.Basic
import RpcScaffold.Code.Writer
import RpcScaffold.Proofs.Naming.Words

/-! # The lines of rendered code

Most code is written as whole lines and blocks of them. Such steps hold no guards when they are
done, and what they write can be said line by line.
-/

namespace RpcScaffold.Code

open Text

/-! ## Plain steps -/

mutual

/-- The step writes whole lines, and none of them is blank but for `blank`. -/
def Step.isPlain : Step → Bool
  | .line s => !isBlankText s
  | .blank => true
  | .block _ body | .braced body => arePlain body
  | _ => false

def arePlain : List Step → Bool
  | [] => true
  | s :: rest => s.isPlain && arePlain rest

end

mutual

/-- The lines of a plain step at a level of indentation. -/
def Step.lines (level : Nat) : Step → List String
  | .line s => [indentation level ++ s]
  | .blank => [""]
  | .block header body =>
    (indentation level ++ (header ++ " " ++ openBrace)) :: linesOf (level + 1) body
      ++ [indentation level ++ closeBrace]
  | .braced body =>
    (indentation level ++ openBrace) :: linesOf (level + 1) body
      ++ [indentation level ++ closeBrace]
  | _ => []

def linesOf (level : Nat) : List Step → List String
  | [] => []
  | s :: rest => s.lines level ++ linesOf level rest

end

theorem arePlain_iff {steps : List Step} :
    arePlain steps = true ↔ ∀ s ∈ steps, s.isPlain = true := by
  induction steps with
  | nil => simp [arePlain]
  | cons s rest ih => rw [arePlain, Bool.and_eq_true, List.forall_mem_cons, ih]

theorem linesOf_eq (level : Nat) (steps : List Step) :
    linesOf level steps = steps.flatMap (·.lines level) := by
  induction steps with
  | nil => rfl
  | cons s rest ih => rw [linesOf, List.flatMap_cons, ih]

/-! ## Writing lines -/

/-- Every line with its line feed. -/
def printed (lines : List String) : String := lines.foldr (fun line text => line ++ "\n" ++ text) ""

theorem printed_append (as bs : List String) : printed (as ++ bs) = printed as ++ printed bs := by
  induction as with
  | nil => simp [printed]
  | cons a rest ih =>
    simp only [printed, List.cons_append, List.foldr_cons] at ih ⊢
    rw [ih]
    simp only [String.append_assoc]

namespace Writer

/-- The writer after some lines more. -/
def add (w : Writer) (lines : List String) : Writer := { w with text := w.text ++ printed lines }

variable {w : Writer}

theorem add_nil : w.add [] = w := by simp [add, printed]

theorem add_add (as bs : List String) : (w.add as).add bs = w.add (as ++ bs) := by
  simp [add, printed_append, String.append_assoc]

theorem line_eq (hw : w.fresh = true) {s : String} (hs : isBlankText s = false) :
    w.line s = w.add [indentation w.level ++ s] := by
  simp [line, write, newline, add, printed, hw, hs, String.append_assoc]

theorem newline_eq (hw : w.fresh = true) : w.newline = w.add [""] := by
  simp [newline, add, printed, hw]

end Writer

theorem isBlankText_append (s t : String) :
    isBlankText (s ++ t) = (isBlankText s && isBlankText t) := by
  simp [isBlankText]

theorem isBlankText_header (header : String) :
    isBlankText (header ++ " " ++ openBrace) = false := by
  rw [isBlankText_append, show isBlankText openBrace = false by decide, Bool.and_false]

/-! ## Running plain steps -/

theorem finish_plain {w : Writer} (hw : w.fresh = true) (guards : Nat) (opening body : List String) :
    finish (((w.add opening).hold.add body).drop (0 + 1)) guards true =
      ⟨w.add (opening ++ body ++ [indentation w.level ++ closeBrace]), guards, true⟩ := by
  have hdrop : ((w.add opening).hold.add body).drop (0 + 1) = w.add (opening ++ body) := by
    rw [← Writer.add_add]
    simp [Writer.add, Writer.hold, Writer.drop]
  have hclose : (w.add (opening ++ body)).line closeBrace =
      (w.add (opening ++ body)).add [indentation w.level ++ closeBrace] :=
    Writer.line_eq (w := w.add (opening ++ body)) hw (by decide)
  rw [hdrop, finish, if_pos rfl, hclose, Writer.add_add]

mutual

theorem run_plain {w : Writer} (hw : w.fresh = true) (guards : Nat) (s : Step)
    (h : s.isPlain = true) : s.run w guards = ⟨w.add (s.lines w.level), guards, true⟩ := by
  cases s with
  | line s =>
    rw [Step.run, Step.lines, Writer.line_eq hw (by simpa [Step.isPlain] using h)]
  | blank => rw [Step.run, Step.lines, Writer.newline_eq hw]
  | block header body =>
    have hbody := runAll_plain
      (w := (w.add [indentation w.level ++ (header ++ " " ++ openBrace)]).hold) hw 0 body h
    rw [Step.run, Step.lines, Writer.line_eq hw (isBlankText_header header), hbody]
    exact finish_plain hw guards _ _
  | braced body =>
    have hbody := runAll_plain (w := (w.add [indentation w.level ++ openBrace]).hold) hw 0 body h
    rw [Step.run, Step.lines, Writer.line_eq hw (by decide), hbody]
    exact finish_plain hw guards _ _
  | _ => simp [Step.isPlain] at h

theorem runAll_plain {w : Writer} (hw : w.fresh = true) (guards : Nat) (steps : List Step)
    (h : arePlain steps = true) :
    runAll w guards steps = ⟨w.add (linesOf w.level steps), guards, true⟩ := by
  cases steps with
  | nil => rw [runAll, linesOf, Writer.add_nil]
  | cons s rest =>
    rw [arePlain, Bool.and_eq_true] at h
    rw [runAll, run_plain hw guards s h.1]
    simp only [if_true]
    rw [runAll_plain (w := w.add (s.lines w.level)) hw guards rest h.2, Writer.add_add, linesOf]
    rfl

end

theorem render_plain {steps : List Step} (h : arePlain steps = true) :
    render steps = printed (linesOf 0 steps) := by
  rw [render, runAll_plain rfl 0 steps h]
  simp [Writer.add]

/-! ## The head of a file -/

theorem lines_fileDoc {summary : String} (hnewline : '\n' ∉ summary.toList)
    (hreturn : '\r' ∉ summary.toList) : Text.lines (summary ++ "\n\n" ++ notice).toList =
      [summary.toList, [], notice.toList] := by
  have hsummary : ∀ c ∈ summary.toList, (c == '\n') = false := by
    intro c hc
    rw [beq_eq_false_iff_ne]
    rintro rfl
    exact hnewline hc
  have htext : (summary ++ "\n\n" ++ notice).toList =
      summary.toList ++ '\n' :: ([] ++ '\n' :: notice.toList) := by
    simp
  have hnotice : ∀ c ∈ notice.toList, (c == '\n') = false := by
    have hall : notice.toList.all (· != '\n') = true := by decide
    simpa using hall
  have hsplit : split (· == '\n') (summary ++ "\n\n" ++ notice).toList =
      [summary.toList, [], notice.toList] := by
    rw [htext, split_append_cons hsummary rfl, split_append_cons (by simp) rfl,
      split_of_forall_neg hnotice]
  have hlast : lines.dropReturn summary.toList = summary.toList := by
    unfold lines.dropReturn
    rw [if_neg]
    intro hlast
    exact hreturn (List.mem_of_getLast? hlast)
  simp only [lines, hsplit, List.dropLast, List.map_cons, List.map_nil, List.getLast?_cons_cons,
    List.getLast?_singleton, hlast]
  rfl

namespace Writer

variable {w : Writer}

theorem docLine_eq (hw : w.fresh = true) (hlevel : w.level = 0) {s : String} (hs : s ≠ "") :
    w.docLine s.toList = w.add ["//! " ++ s] := by
  have hvisible : isBlankText ("//! " ++ s) = false := by
    rw [isBlankText_append, show isBlankText "//! " = false by decide, Bool.false_and]
  have hsome : ¬ s.toList.isEmpty = true := by simpa using hs
  unfold docLine
  rw [if_neg hsome, String.ofList_toList, line_eq hw hvisible, hlevel]
  rfl

theorem docLine_nil (hw : w.fresh = true) (hlevel : w.level = 0) :
    w.docLine [] = w.add ["//!"] := by
  have hline : w.docLine [] = w.line "//!" := rfl
  rw [hline, line_eq hw (by decide), hlevel]
  rfl

end Writer

/-- Plain steps behind the documentation of a file. -/
theorem render_fileDoc {summary : String} (hsummary : summary ≠ "")
    (hnewline : '\n' ∉ summary.toList) (hreturn : '\r' ∉ summary.toList) {steps : List Step}
    (h : arePlain steps = true) : render (fileDoc summary :: steps) =
      printed (["//! " ++ summary, "//!", "//! " ++ notice] ++ linesOf 0 steps) := by
  have hdoc : ({} : Writer).moduleDoc (summary ++ "\n\n" ++ notice) =
      (({} : Writer).add ["//! " ++ summary, "//!"]).add ["//! " ++ notice] := by
    rw [Writer.moduleDoc, lines_fileDoc hnewline hreturn, List.foldl_cons, List.foldl_cons,
      List.foldl_cons, List.foldl_nil, Writer.docLine_eq rfl rfl hsummary,
      Writer.docLine_nil (w := ({} : Writer).add _) rfl rfl, Writer.add_add,
      Writer.docLine_eq (w := ({} : Writer).add _) rfl rfl (by decide)]
    rfl
  rw [render, fileDoc, runAll, Step.run, hdoc, Writer.add_add]
  simp only [if_true]
  rw [runAll_plain (w := ({} : Writer).add _) rfl 0 steps h, Writer.add_add]
  simp [Writer.add]

/-! ## Reading the lines back -/

theorem split_printed {lines : List String} (h : ∀ line ∈ lines, '\n' ∉ line.toList) :
    split (· == '\n') (printed lines).toList = lines.map (·.toList) ++ [[]] := by
  induction lines with
  | nil => rfl
  | cons line rest ih =>
    rw [List.forall_mem_cons] at h
    have hline : ∀ c ∈ line.toList, (c == '\n') = false := by
      intro c hc
      simp only [beq_eq_false_iff_ne]
      rintro rfl
      exact h.1 hc
    have htext : (printed (line :: rest)).toList = line.toList ++ '\n' :: (printed rest).toList := by
      simp [printed]
    rw [htext, split_append_cons hline rfl, ih h.2]
    rfl

end RpcScaffold.Code
