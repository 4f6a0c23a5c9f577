import RpcScaffold.Proofs.SourceText.Markers

/-!
# Copies are the same for every platform

Platforms differ in how lines end, in blanks that editors leave there and in a byte-order mark. All
of that is gone from the normal form, and the copy is made from the normal form.
-/

namespace RpcScaffold.SourceText

open Text

/-! ## Editions of a text -/

inductive LineEnd
  | feed
  | carriageReturn
  | both
  deriving Repr, DecidableEq

def LineEnd.chars : LineEnd → List Char
  | feed => ['\n']
  | carriageReturn => ['\r']
  | both => ['\r', '\n']

/-- A blank that an editor may leave at the end of a line. -/
inductive Gap
  | space
  | tab
  deriving Repr, DecidableEq

def Gap.char : Gap → Char
  | space => ' '
  | tab => '\t'

/-- The text with another line end for every line feed, and with a run of blanks in front of each of
them and at the end. Where `runs` has no more runs there are no blanks. -/
def rewriteLines (lineEnd : LineEnd) : List (List Gap) → List Char → List Char
  | runs, [] => (runs.headD []).map Gap.char
  | runs, c :: cs =>
    if c = '\n' then
      (runs.headD []).map Gap.char ++ (lineEnd.chars ++ rewriteLines lineEnd runs.tail cs)
    else c :: rewriteLines lineEnd runs cs

/-- How a text is written on a platform. -/
structure Edition where
  byteOrderMark : Bool := false
  lineEnd : LineEnd := .feed
  runs : List (List Gap) := []

def Edition.writeChars (e : Edition) (cs : List Char) : List Char :=
  let text := rewriteLines e.lineEnd e.runs cs
  if e.byteOrderMark then '\uFEFF' :: text else text

def Edition.write (e : Edition) (s : String) : String := String.ofList (e.writeChars s.toList)

/-- Without blanks and without a mark only the line ends are other ones. -/
theorem writeChars_lineEnd (lineEnd : LineEnd) (cs : List Char) :
    ({ lineEnd } : Edition).writeChars cs =
      cs.flatMap fun c => if c = '\n' then lineEnd.chars else [c] := by
  change rewriteLines lineEnd [] cs = _
  induction cs with
  | nil => rfl
  | cons c rest ih =>
    rw [rewriteLines, List.tail_nil, ih, List.flatMap_cons]
    split_ifs <;> rfl

section

variable {lineEnd : LineEnd} {runs : List (List Gap)} {cs : List Char}

theorem mem_rewriteLines {c : Char} (h : c ∈ rewriteLines lineEnd runs cs) :
    c ∈ cs ∨ c ∈ [' ', '\t', '\r', '\n'] := by
  have hgap : ∀ {run : List Gap}, c ∈ run.map Gap.char → c ∈ [' ', '\t', '\r', '\n'] := by
    intro run hc
    obtain ⟨gap, -, rfl⟩ := List.mem_map.mp hc
    cases gap <;> decide
  have hend : c ∈ lineEnd.chars → c ∈ [' ', '\t', '\r', '\n'] := by
    cases lineEnd <;> simp +contextual [LineEnd.chars]
  induction cs generalizing runs with
  | nil => exact .inr (hgap h)
  | cons d rest ih =>
    rw [rewriteLines] at h
    split_ifs at h
    · rcases List.mem_append.mp h with h | h
      · exact .inr (hgap h)
      · rcases List.mem_append.mp h with h | h
        · exact .inr (hend h)
        · exact (ih h).imp_left (List.mem_cons_of_mem d)
    · rcases List.mem_cons.mp h with rfl | h
      · exact .inl List.mem_cons_self
      · exact (ih h).imp_left (List.mem_cons_of_mem d)

/-! ## Line ends -/

/-- Each kind of line end becomes a line feed. A carriage return alone must not have a line feed
after it, which in such a text it never has. -/
theorem foldr_unifyBreak_lineEnd {rest : List Char} {ended : Bool}
    (h : lineEnd = .carriageReturn → ended = false) : ∃ ended',
    lineEnd.chars.foldr unifyBreak (rest, ended) = ('\n' :: rest, ended') ∧
      (lineEnd = .carriageReturn → ended' = false) := by
  cases lineEnd with
  | feed => exact ⟨true, rfl, by simp⟩
  | carriageReturn =>
    obtain rfl := h rfl
    exact ⟨false, rfl, fun _ => rfl⟩
  | both => exact ⟨false, rfl, fun _ => rfl⟩

theorem foldr_unifyBreak_run (run : List Gap) (rest : List Char) {ended : Bool}
    (h : lineEnd = .carriageReturn → ended = false) : ∃ ended',
    (run.map Gap.char).foldr unifyBreak (rest, ended) = (run.map Gap.char ++ rest, ended') ∧
      (lineEnd = .carriageReturn → ended' = false) := by
  induction run with
  | nil => exact ⟨ended, rfl, h⟩
  | cons gap more ih =>
    obtain ⟨ended', hmore, -⟩ := ih
    rw [List.map_cons, List.foldr_cons, hmore]
    cases gap <;> exact ⟨false, rfl, fun _ => rfl⟩

theorem foldr_unifyBreak_rewriteLines (lineEnd : LineEnd) (runs : List (List Gap))
    (h : '\r' ∉ cs) : ∃ ended,
    (rewriteLines lineEnd runs cs).foldr unifyBreak ([], false) =
      (rewriteLines .feed runs cs, ended) ∧ (lineEnd = .carriageReturn → ended = false) := by
  induction cs generalizing runs with
  | nil =>
    have hempty : lineEnd = .carriageReturn → false = false := fun _ => rfl
    obtain ⟨ended, hrun, hended⟩ := foldr_unifyBreak_run (runs.headD []) [] hempty
    rw [List.append_nil] at hrun
    exact ⟨ended, hrun, hended⟩
  | cons c rest ih =>
    rw [List.mem_cons, not_or] at h
    rw [rewriteLines, rewriteLines]
    split_ifs with hfeed
    · obtain ⟨ended, hrest, hended⟩ := ih runs.tail h.2
      obtain ⟨ended', hend, hended'⟩ := foldr_unifyBreak_lineEnd hended
      rw [List.foldr_append, List.foldr_append, hrest, hend]
      exact foldr_unifyBreak_run (runs.headD []) _ hended'
    · obtain ⟨ended, hrest, -⟩ := ih runs h.2
      rw [List.foldr_cons, hrest, unifyBreak, if_neg (Ne.symm h.1)]
      exact ⟨_, rfl, fun _ => by simpa using hfeed⟩

theorem unifyBreaks_rewriteLines (h : '\r' ∉ cs) :
    unifyBreaks (rewriteLines lineEnd runs cs) = rewriteLines .feed runs cs := by
  obtain ⟨ended, hfold, -⟩ := foldr_unifyBreak_rewriteLines lineEnd runs h
  rw [unifyBreaks, hfold]

/-! ## Blanks at line ends -/

theorem trimEnd_run (run : List Gap) : trimEnd (run.map Gap.char) = [] := by
  rw [trimEnd, List.reverse_eq_nil_iff, List.dropWhile_eq_nil_iff]
  intro c hc
  obtain ⟨gap, -, rfl⟩ := List.mem_map.mp (List.mem_reverse.mp hc)
  cases gap <;> rfl

/-- Of the rest of a line only its trimmed form matters. -/
theorem trimEnd_cons_congr (c : Char) {as bs : List Char} (h : trimEnd as = trimEnd bs) :
    trimEnd (c :: as) = trimEnd (c :: bs) := by
  have hcons : ∀ cs : List Char, trimEnd (c :: cs) = trimEnd (c :: trimEnd cs) := by
    intro cs
    obtain ⟨blanks, hcs, hblanks⟩ := exists_trimEnd cs
    have hdrop : blanks.reverse.dropWhile isBlank = [] :=
      List.dropWhile_eq_nil_iff.mpr fun d hd => hblanks d (List.mem_reverse.mp hd)
    conv_lhs =>
      rw [hcs, ← List.cons_append, trimEnd, List.reverse_append, List.dropWhile_append, hdrop]
    rfl
  rw [hcons as, h, ← hcons bs]

theorem trimLines_rewriteLines (runs : List (List Gap)) (cs : List Char) :
    trimLines (rewriteLines .feed runs cs) = trimLines cs := by
  have hplain : ∀ run : List Gap, ∀ c ∈ run.map Gap.char, (c == '\n') = false := by
    intro run c hc
    obtain ⟨gap, -, rfl⟩ := List.mem_map.mp hc
    cases gap <;> rfl
  have hlines : (split (· == '\n') (rewriteLines .feed runs cs)).map trimEnd =
      (split (· == '\n') cs).map trimEnd := by
    induction cs generalizing runs with
    | nil =>
      rw [rewriteLines, split_of_forall_neg (p := (· == '\n')) (hplain _), List.map_singleton,
        trimEnd_run]
      rfl
    | cons c rest ih =>
      rw [rewriteLines]
      split_ifs with hfeed
      · rw [LineEnd.chars, List.singleton_append,
          split_append_cons (p := (· == '\n')) (hplain _) (by rfl), hfeed,
          split_cons_of_pos (p := (· == '\n')) (by rfl), List.map_cons, List.map_cons, ih,
          trimEnd_run]
        rfl
      · have hc : (c == '\n') = false := beq_eq_false_iff_ne.mpr hfeed
        obtain ⟨first, others, hfirst⟩ :=
          List.exists_cons_of_ne_nil (split_ne_nil (· == '\n') (rewriteLines .feed runs rest))
        obtain ⟨first', others', hfirst'⟩ :=
          List.exists_cons_of_ne_nil (split_ne_nil (· == '\n') rest)
        have hrest := ih runs
        rw [hfirst, hfirst', List.map_cons, List.map_cons, List.cons.injEq] at hrest
        rw [split_cons_of_neg (p := (· == '\n')) hc hfirst,
          split_cons_of_neg (p := (· == '\n')) hc hfirst', List.map_cons, List.map_cons, hrest.2,
          trimEnd_cons_congr c hrest.1]
  rw [trimLines, hlines, trimLines]

/-! ## The copy -/

theorem dropMark_writeChars (e : Edition) (h : '\uFEFF' ∉ cs) :
    dropMark (e.writeChars cs) = rewriteLines e.lineEnd e.runs cs := by
  rw [Edition.writeChars]
  split_ifs
  · rfl
  · apply dropMark_of_not_mem
    intro hmark
    rcases mem_rewriteLines hmark with hmark | hmark
    · exact h hmark
    · exact absurd hmark (by decide)

theorem normalizeChars_writeChars (e : Edition) (hreturn : '\r' ∉ cs) (hmark : '\uFEFF' ∉ cs) :
    normalizeChars (e.writeChars cs) = normalizeChars cs := by
  calc normalizeChars (e.writeChars cs)
      = trimLines (unifyBreaks (dropMark (e.writeChars cs))) := rfl
    _ = trimLines (rewriteLines .feed e.runs cs) := by
      rw [dropMark_writeChars e hmark, unifyBreaks_rewriteLines hreturn]
    _ = trimLines cs := trimLines_rewriteLines e.runs cs
    _ = normalizeChars cs := by
      rw [normalizeChars_of_not_mem hmark, unifyBreaks_of_not_mem hreturn]

end

/-- However a text without carriage returns and byte-order marks is written on a platform, its
normal form and its copy are those of the text itself. -/
theorem passes_of_edition (e : Edition) {s : String} (hreturn : '\r' ∉ s.toList)
    (hmark : '\uFEFF' ∉ s.toList) :
    normalize (e.write s) = normalize s ∧ stripMarkers (e.write s) = stripMarkers s := by
  have hnormal := normalizeChars_writeChars e hreturn hmark
  constructor
  · rw [normalize, Edition.write, String.toList_ofList, hnormal, normalize]
  · rw [stripMarkers, Edition.write, String.toList_ofList, stripMarkersChars_eq, survivors,
      normalLines, hnormal]
    rfl

/-- Line ends of two characters, blanks at three of them and at the end, and a byte-order mark. -/
def blankEdition : Edition where
  byteOrderMark := true
  lineEnd := .both
  runs := [[.tab], [], [.space, .space], [.space, .tab], [.tab]]

theorem passes_of_blankEdition :
    '\r' ∉ personStruct.toList ∧ '\uFEFF' ∉ personStruct.toList ∧
      blankEdition.write personStruct ≠ personStruct ∧
      normalize (blankEdition.write personStruct) = normalize personStruct ∧
      stripMarkers (blankEdition.write personStruct) = stripMarkers personStruct := by
  have hchars : personStruct.toList = _ := String.toList_ofList
  have hreturn : '\r' ∉ personStruct.toList := by
    rw [hchars]
    decide
  have hmark : '\uFEFF' ∉ personStruct.toList := by
    rw [hchars]
    decide
  refine ⟨hreturn, hmark, ?_, passes_of_edition blankEdition hreturn hmark⟩
  rw [Edition.write, ne_eq, ← String.toList_inj, String.toList_ofList, hchars]
  decide

end RpcScaffold.SourceText
