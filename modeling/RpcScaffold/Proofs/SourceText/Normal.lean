import Mathlib.Data.List.DropRight
import RpcScaffold.Proofs.Naming.Words
import RpcScaffold.SourceText

/-! # The normal form of a source, line by line

Whole lines at the start of a text are made normal without a look at what follows them. So the
lines of a normal text can be had piece by piece, and a line alone.
-/

namespace RpcScaffold.Text

theorem join_append (glue : List Char) {as bs : List (List Char)} (ha : as ≠ []) (hb : bs ≠ []) :
    join glue (as ++ bs) = join glue as ++ glue ++ join glue bs := by
  induction as with
  | nil => exact absurd rfl ha
  | cons first others ih =>
    rw [join, List.cons_append, List.intercalate_cons_of_ne_nil (by simp [hb]), ← join]
    cases others with
    | nil => simp [join]
    | cons second rest =>
      have hrest := ih (by simp)
      rw [hrest]
      simp [join]

/-! ## Blanks at the end -/

theorem exists_trimEnd (cs : List Char) :
    ∃ blanks, cs = trimEnd cs ++ blanks ∧ ∀ c ∈ blanks, isBlank c = true := by
  refine ⟨cs.rtakeWhile isBlank, List.rdropWhile_append_rtakeWhile.symm, ?_⟩
  intro c hc
  rw [List.rtakeWhile, List.mem_reverse] at hc
  exact List.mem_takeWhile_imp hc

theorem mem_of_mem_trimEnd {cs : List Char} {c : Char} (h : c ∈ trimEnd cs) : c ∈ cs := by
  obtain ⟨blanks, hcs, -⟩ := exists_trimEnd cs
  rw [hcs]
  exact List.mem_append_left _ h

/-- A prefix that ends in no blank needs no blanks at the end. -/
theorem prefix_trimStart_trimEnd_iff {mark cs : List Char}
    (hlast : mark.getLast?.map isBlank = some false) :
    mark <+: trimStart (trimEnd cs) ↔ mark <+: trimStart cs := by
  obtain ⟨blanks, hcs, hblanks⟩ := exists_trimEnd cs
  have hstart : trimStart cs =
      if (trimStart (trimEnd cs)).isEmpty then [] else trimStart (trimEnd cs) ++ blanks := by
    have hnone : blanks.dropWhile isBlank = [] := List.dropWhile_eq_nil_iff.mpr hblanks
    conv_lhs => rw [hcs, trimStart, List.dropWhile_append, hnone]
    rfl
  rw [hstart]
  split_ifs with hempty
  · rw [List.isEmpty_iff.mp hempty]
  · constructor
    · exact List.prefix_append_of_prefix
    · intro h
      rcases List.prefix_or_prefix_of_prefix h (List.prefix_append _ blanks) with h' | ⟨more, rfl⟩
      · exact h'
      · -- What the mark has beyond the trimmed line are blanks, and its last character is none.
        have hmore : more <+: blanks := (List.prefix_append_right_inj _).mp h
        rcases List.eq_nil_or_concat more with rfl | ⟨front, d, rfl⟩
        · simp
        · have hblank := hblanks d (hmore.subset (by simp))
          simp [hblank] at hlast

end RpcScaffold.Text

namespace RpcScaffold.SourceText

open Text

/-! ## Whole lines -/

/-- Every line of the text has its end. -/
def IsWhole (cs : List Char) : Prop := cs = [] ∨ ['\n'] <:+ cs

theorem isWhole_nil : IsWhole [] := .inl rfl

theorem isWhole_concat (cs : List Char) : IsWhole (cs ++ ['\n']) := .inr ⟨cs, rfl⟩

theorem IsWhole.append {cs ds : List Char} (hc : IsWhole cs) (hd : IsWhole ds) :
    IsWhole (cs ++ ds) := by
  rcases hd with rfl | hd
  · simpa using hc
  · exact .inr (hd.trans (List.suffix_append cs ds))

/-- A function that does each line by itself does whole lines by themselves. -/
theorem IsWhole.map_append {α : Type} {f ofLine : List Char → List α} {cs : List Char}
    (h : IsWhole cs) (hnil : f [] = [])
    (hfeed : ∀ text rest, f (text ++ '\n' :: rest) = ofLine text ++ f rest) (rest : List Char) :
    f (cs ++ rest) = f cs ++ f rest := by
  rcases h with rfl | ⟨text, rfl⟩
  · simp [hnil]
  · rw [List.append_assoc, List.singleton_append, hfeed, hfeed, hnil, List.append_nil]

/-! ## Line ends -/

/-- Of what follows, a piece of text only asks whether it starts with a line feed. -/
theorem foldr_unifyBreak (cs rest : List Char) (ended : Bool) :
    cs.foldr unifyBreak (rest, ended) =
      ((cs.foldr unifyBreak ([], ended)).1 ++ rest, (cs.foldr unifyBreak ([], ended)).2) := by
  induction cs with
  | nil => rfl
  | cons c more ih =>
    rw [List.foldr_cons, ih, List.foldr_cons]
    unfold unifyBreak
    split_ifs <;> rfl

theorem unifyBreaks_feed (text rest : List Char) :
    unifyBreaks (text ++ '\n' :: rest) =
      (text.foldr unifyBreak ([], true)).1 ++ '\n' :: unifyBreaks rest := by
  have hfeed : List.foldr unifyBreak ([], false) ('\n' :: rest) =
      ('\n' :: unifyBreaks rest, true) := rfl
  rw [unifyBreaks, List.foldr_append, hfeed, foldr_unifyBreak]

theorem unifyBreaks_of_not_mem {cs : List Char} (h : '\r' ∉ cs) : unifyBreaks cs = cs := by
  rw [unifyBreaks]
  induction cs with
  | nil => rfl
  | cons c rest ih =>
    rw [List.mem_cons, not_or] at h
    rw [List.foldr_cons, unifyBreak, if_neg (Ne.symm h.1), ih h.2]

/-! ## Trailing blanks -/

/-- Every line without the blanks at its end. -/
def trimLines (cs : List Char) : List Char := join ['\n'] ((split (· == '\n') cs).map trimEnd)

theorem trimLines_feed (text rest : List Char) :
    trimLines (text ++ '\n' :: rest) = trimLines text ++ '\n' :: trimLines rest := by
  rw [trimLines, split_append (by rfl), List.map_append, join_append, List.append_assoc]
  · rfl
  · simp [split_ne_nil]
  · simp [split_ne_nil]

theorem trimLines_of_not_mem {cs : List Char} (h : '\n' ∉ cs) : trimLines cs = trimEnd cs := by
  have hone : split (· == '\n') cs = [cs] := by
    apply split_of_forall_neg
    intro c hc
    simp only [beq_eq_false_iff_ne]
    rintro rfl
    exact h hc
  simp [trimLines, hone, join]

/-! ## The normal form -/

theorem dropMark_of_not_mem {cs : List Char} (h : '\uFEFF' ∉ cs) : dropMark cs = cs := by
  unfold dropMark
  split
  · simp at h
  · rfl

theorem normalizeChars_of_not_mem {cs : List Char} (h : '\uFEFF' ∉ cs) :
    normalizeChars cs = trimLines (unifyBreaks cs) := by
  rw [normalizeChars, dropMark_of_not_mem h, trimLines]

theorem normal_feed (text rest : List Char) :
    trimLines (unifyBreaks (text ++ '\n' :: rest)) =
      (trimLines (text.foldr unifyBreak ([], true)).1 ++ ['\n']) ++
        trimLines (unifyBreaks rest) := by
  rw [unifyBreaks_feed, trimLines_feed]
  simp

theorem normalizeChars_append {cs rest : List Char} (h : IsWhole cs)
    (hmark : '\uFEFF' ∉ cs ++ rest) :
    normalizeChars (cs ++ rest) = normalizeChars cs ++ normalizeChars rest := by
  have hparts := hmark
  rw [List.mem_append, not_or] at hparts
  rw [normalizeChars_of_not_mem hmark, normalizeChars_of_not_mem hparts.1,
    normalizeChars_of_not_mem hparts.2]
  exact h.map_append (f := fun cs => trimLines (unifyBreaks cs)) rfl normal_feed rest

theorem isWhole_normalizeChars {cs : List Char} (h : IsWhole cs) (hmark : '\uFEFF' ∉ cs) :
    IsWhole (normalizeChars cs) := by
  rw [normalizeChars_of_not_mem hmark]
  rcases h with rfl | ⟨text, rfl⟩
  · exact isWhole_nil
  · rw [normal_feed, show trimLines (unifyBreaks []) = [] from rfl, List.append_nil]
    exact isWhole_concat _

/-! ## Its lines -/

theorem lines_feed (text rest : List Char) :
    lines (text ++ '\n' :: rest) =
      (split (· == '\n') text).map lines.dropReturn ++ lines rest := by
  have hne := split_ne_nil (· == '\n') rest
  unfold lines
  rw [split_append (by rfl)]
  simp only [List.dropLast_append_of_ne_nil hne, List.getLast?_append_of_ne_nil _ hne,
    List.map_append]
  split
  · rfl
  · rfl
  · rw [List.append_assoc]

theorem lines_append {cs : List Char} (h : IsWhole cs) (rest : List Char) :
    lines (cs ++ rest) = lines cs ++ lines rest :=
  h.map_append rfl lines_feed rest

/-- The lines of the normal text. -/
def normalLines (cs : List Char) : List (List Char) := lines (normalizeChars cs)

theorem normalLines_append {cs rest : List Char} (h : IsWhole cs) (hmark : '\uFEFF' ∉ cs ++ rest) :
    normalLines (cs ++ rest) = normalLines cs ++ normalLines rest := by
  have hcs : '\uFEFF' ∉ cs := fun hin => hmark (List.mem_append_left rest hin)
  rw [normalLines, normalizeChars_append h hmark, lines_append (isWhole_normalizeChars h hcs)]
  rfl

/-- A line that can stand alone in a text. -/
structure IsLine (cs : List Char) : Prop where
  noFeed : '\n' ∉ cs
  noReturn : '\r' ∉ cs
  noMark : '\uFEFF' ∉ cs

theorem IsLine.normalizeChars_feed {line : List Char} (h : IsLine line) :
    normalizeChars (line ++ ['\n']) = trimEnd line ++ ['\n'] := by
  have hmark : '\uFEFF' ∉ line ++ ['\n'] := by simpa using h.noMark
  have hreturn : '\r' ∉ line ++ ['\n'] := by simpa using h.noReturn
  rw [normalizeChars_of_not_mem hmark, unifyBreaks_of_not_mem hreturn, trimLines_feed,
    trimLines_of_not_mem h.noFeed]
  rfl

theorem IsLine.normalLines_feed {line : List Char} (h : IsLine line) :
    normalLines (line ++ ['\n']) = [trimEnd line] := by
  have hone : split (· == '\n') (trimEnd line) = [trimEnd line] := by
    apply split_of_forall_neg
    intro c hc
    simp only [beq_eq_false_iff_ne]
    rintro rfl
    exact h.noFeed (mem_of_mem_trimEnd hc)
  have hreturn : (trimEnd line).getLast? ≠ some '\r' := by
    intro hlast
    exact h.noReturn (mem_of_mem_trimEnd (List.mem_of_getLast? hlast))
  rw [normalLines, h.normalizeChars_feed, lines_feed, hone]
  simp [lines.dropReturn, hreturn, lines]

end RpcScaffold.SourceText
