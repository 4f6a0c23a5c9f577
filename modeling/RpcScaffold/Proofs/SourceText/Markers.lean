import RpcScaffold.Proofs.SourceText.Normal

/-! # What goes with a marker

A marker is open until the brackets of whole lines balance, also those brackets of its line that are
not its own. An attribute that closes on its line therefore goes alone if and only if what follows
it there opens no more brackets than it closes. Otherwise lines go until that balance is made up,
and all lines if it never is.
-/

namespace RpcScaffold.SourceText

open Text

/-! ## Balances -/

theorem bracketBalance_append (as bs : List Char) :
    bracketBalance (as ++ bs) = bracketBalance as + bracketBalance bs := by
  simp only [bracketBalance, List.countP_append, Int.ofNat_eq_natCast]
  omega

theorem bracketBalance_cons (c : Char) (cs : List Char) :
    bracketBalance (c :: cs) = bracketBalance [c] + bracketBalance cs :=
  bracketBalance_append [c] cs

theorem bracketBalance_of_blank {cs : List Char} (h : ∀ c ∈ cs, isBlank c = true) :
    bracketBalance cs = 0 := by
  have hplain : ∀ c, isBlank c = true → isOpening c = false ∧ isClosing c = false := by
    intro c hc
    constructor
    all_goals
      rw [Bool.eq_false_iff]
      intro hbracket
      simp only [isOpening, isClosing, Bool.or_eq_true, beq_iff_eq] at hbracket
      rcases hbracket with (rfl | rfl) | rfl <;> exact absurd hc (by decide)
  have hopening : cs.countP isOpening = 0 :=
    List.countP_eq_zero.mpr fun c hc => by simp [(hplain c (h c hc)).1]
  have hclosing : cs.countP isClosing = 0 :=
    List.countP_eq_zero.mpr fun c hc => by simp [(hplain c (h c hc)).2]
  rw [bracketBalance, hopening, hclosing]
  rfl

theorem bracketBalance_trimEnd (line : List Char) :
    bracketBalance (trimEnd line) = bracketBalance line := by
  obtain ⟨blanks, hline, hblanks⟩ := exists_trimEnd line
  conv_rhs => rw [hline, bracketBalance_append, bracketBalance_of_blank hblanks, Int.add_zero]

theorem bracketBalance_trimStart (line : List Char) :
    bracketBalance (trimStart line) = bracketBalance line := by
  have hindent : bracketBalance (line.takeWhile isBlank) = 0 :=
    bracketBalance_of_blank fun _ hc => List.mem_takeWhile_imp hc
  have hline := bracketBalance_append (line.takeWhile isBlank) (line.dropWhile isBlank)
  rw [List.takeWhile_append_dropWhile, hindent, Int.zero_add] at hline
  exact hline.symm

theorem markerOf?_trimEnd (line : List Char) : markerOf? (trimEnd line) = markerOf? line := by
  have hstarts : ∀ marks : List String,
      (∀ mark ∈ marks, mark.toList.getLast?.map isBlank = some false) →
      (marks.any fun mark => mark.toList.isPrefixOf (trimStart (trimEnd line))) =
        marks.any fun mark => mark.toList.isPrefixOf (trimStart line) := by
    intro marks hmarks
    rw [Bool.eq_iff_iff, List.any_eq_true, List.any_eq_true]
    apply exists_congr
    intro mark
    apply and_congr_right
    intro hmark
    rw [List.isPrefixOf_iff_prefix, List.isPrefixOf_iff_prefix]
    exact prefix_trimStart_trimEnd_iff (hmarks mark hmark)
  simp only [markerOf?, hstarts markerAttributes (by decide), hstarts markerImports (by decide)]

/-! ## The scan -/

/-- Kept lines are only added to. -/
theorem foldl_line (s : Scan) (lines : List (List Char)) :
    lines.foldl Scan.line s =
      { kept := (lines.foldl Scan.line { opened := s.opened }).kept ++ s.kept
        opened := (lines.foldl Scan.line { opened := s.opened }).opened } := by
  induction lines generalizing s with
  | nil => rfl
  | cons line rest ih =>
    have hline : s.line line =
        { kept := (Scan.line { opened := s.opened } line).kept ++ s.kept
          opened := (Scan.line { opened := s.opened } line).opened } := by
      obtain ⟨kept, opened⟩ := s
      cases opened with
      | some o => rfl
      | none => cases hmarker : markerOf? line <;> simp [Scan.line, hmarker]
    rw [List.foldl_cons, List.foldl_cons, ih (s.line line),
      ih (Scan.line { opened := s.opened } line), hline]
    simp

theorem keptLines_append {as : List (List Char)} (h : (as.foldl Scan.line {}).opened = none)
    (bs : List (List Char)) : keptLines (as ++ bs) = keptLines as ++ keptLines bs := by
  unfold keptLines
  rw [List.foldl_append, foldl_line, h, List.reverse_append]

/-- The lines behind those that make up `balance`. -/
def dropOpen (balance : Int) : List (List Char) → List (List Char)
  | [] => []
  | line :: rest =>
    if balance ≤ 0 then line :: rest else dropOpen (balance + bracketBalance line) rest

theorem dropOpen_of_nonpos {balance : Int} (h : balance ≤ 0) (lines : List (List Char)) :
    dropOpen balance lines = lines := by
  cases lines with
  | nil => rfl
  | cons line rest => exact if_pos h

/-- An open attribute takes lines until its balance is made up, and they may be markers too. -/
theorem foldl_line_attribute (balance : Int) (line : List Char) (lines : List (List Char)) :
    (lines.foldl Scan.line { opened := OpenMarker.after ⟨.attribute, balance⟩ line }).kept.reverse =
      keptLines (dropOpen (balance + bracketBalance line) lines) := by
  induction lines generalizing balance line with
  | nil => rfl
  | cons next rest ih =>
    by_cases h : balance + bracketBalance line ≤ 0
    · have hafter : OpenMarker.after ⟨.attribute, balance⟩ line = none := by
        simp [OpenMarker.after, h]
      rw [hafter, dropOpen, if_pos h]
      rfl
    · have hafter : OpenMarker.after ⟨.attribute, balance⟩ line =
          some ⟨.attribute, balance + bracketBalance line⟩ := by
        simp [OpenMarker.after, h]
      rw [hafter, dropOpen, if_neg h, List.foldl_cons]
      exact ih _ next

theorem keptLines_attribute {line : List Char} (h : markerOf? line = some .attribute)
    (rest : List (List Char)) :
    keptLines (line :: rest) = keptLines (dropOpen (bracketBalance line) rest) := by
  have hline : Scan.line {} line = { opened := OpenMarker.after ⟨.attribute, 0⟩ line } := by
    simp [Scan.line, h]
  rw [keptLines, List.foldl_cons, hline, foldl_line_attribute, Int.zero_add]

/-! ## Copies -/

/-- The lines of the text that its copy keeps. -/
def survivors (cs : List Char) : List (List Char) := keptLines (normalLines cs)

/-- The marker that is open at the end of the text. -/
def openAtEnd (cs : List Char) : Option OpenMarker := ((normalLines cs).foldl Scan.line {}).opened

theorem survivors_append {cs rest : List Char} (h : IsWhole cs) (hmark : '\uFEFF' ∉ cs ++ rest)
    (hopen : openAtEnd cs = none) : survivors (cs ++ rest) = survivors cs ++ survivors rest := by
  rw [survivors, normalLines_append h hmark, keptLines_append hopen]
  rfl

theorem survivors_attribute {line : List Char} (h : IsLine line)
    (hmarker : markerOf? line = some .attribute) {rest : List Char} (hmark : '\uFEFF' ∉ rest) :
    survivors (line ++ '\n' :: rest) =
      keptLines (dropOpen (bracketBalance line) (normalLines rest)) := by
  have hmarks : '\uFEFF' ∉ (line ++ ['\n']) ++ rest := by simp [h.noMark, hmark]
  rw [← List.singleton_append, ← List.append_assoc, survivors,
    normalLines_append (isWhole_concat line) hmarks, h.normalLines_feed, List.singleton_append,
    keptLines_attribute (by rw [markerOf?_trimEnd, hmarker]), bracketBalance_trimEnd]

theorem stripMarkersChars_eq (cs : List Char) :
    stripMarkersChars cs =
      if (normalizeChars cs).getLast? = some '\n' then join ['\n'] (survivors cs) ++ ['\n']
      else join ['\n'] (survivors cs) := rfl

theorem stripMarkersChars_congr {cs ds : List Char} (hlines : survivors cs = survivors ds)
    (hlast : (normalizeChars cs).getLast? = (normalizeChars ds).getLast?) :
    stripMarkersChars cs = stripMarkersChars ds := by
  rw [stripMarkersChars_eq, stripMarkersChars_eq, hlines, hlast]

/-- A line goes between the two texts: the first one has whole lines and leaves no marker open, and
some line of the second one stays. -/
structure Surrounds (before after : List Char) : Prop where
  noMark : '\uFEFF' ∉ before ++ after
  whole : IsWhole before
  closed : openAtEnd before = none
  stays : survivors after ≠ []

section

variable {before after line : List Char}

theorem Surrounds.survivors_line (h : Surrounds before after) (hline : IsLine line)
    (hmarker : markerOf? line = some .attribute) :
    survivors (before ++ (line ++ '\n' :: after)) =
      survivors before ++ keptLines (dropOpen (bracketBalance line) (normalLines after)) := by
  have hparts := h.noMark
  rw [List.mem_append, not_or] at hparts
  have hmark : '\uFEFF' ∉ before ++ (line ++ '\n' :: after) := by
    simp [hparts.1, hparts.2, hline.noMark]
  rw [survivors_append h.whole hmark h.closed, survivors_attribute hline hmarker hparts.2]

theorem normalizeChars_ne_nil {cs : List Char} (h : survivors cs ≠ []) :
    normalizeChars cs ≠ [] := by
  intro hnil
  apply h
  rw [survivors, normalLines, hnil]
  rfl

theorem Surrounds.getLast?_line (h : Surrounds before after) (hline : IsLine line) :
    (normalizeChars (before ++ (line ++ '\n' :: after))).getLast? =
      (normalizeChars (before ++ after)).getLast? := by
  have hparts := h.noMark
  rw [List.mem_append, not_or] at hparts
  have hwhole : IsWhole (before ++ (line ++ ['\n'])) := h.whole.append (isWhole_concat line)
  have hmark : '\uFEFF' ∉ (before ++ (line ++ ['\n'])) ++ after := by
    simp [hparts.1, hparts.2, hline.noMark]
  have hsplit : before ++ (line ++ '\n' :: after) = (before ++ (line ++ ['\n'])) ++ after := by simp
  have hne := normalizeChars_ne_nil h.stays
  rw [hsplit, normalizeChars_append hwhole hmark, normalizeChars_append h.whole h.noMark,
    List.getLast?_append_of_ne_nil _ hne, List.getLast?_append_of_ne_nil _ hne]

theorem Surrounds.stripMarkersChars_line (h : Surrounds before after) (hline : IsLine line)
    (hmarker : markerOf? line = some .attribute) (hbalance : bracketBalance line ≤ 0) :
    stripMarkersChars (before ++ (line ++ '\n' :: after)) =
      stripMarkersChars (before ++ after) := by
  apply stripMarkersChars_congr
  · rw [h.survivors_line hline hmarker, dropOpen_of_nonpos hbalance,
      survivors_append h.whole h.noMark h.closed]
    rfl
  · exact h.getLast?_line hline

end

/-! ## Attributes that go alone -/

/-- The line is missing in copies, and nothing else is. -/
def GoesAlone (line : String) : Prop :=
  ∀ before after : String, Surrounds before.toList after.toList →
    stripMarkers (before ++ line ++ "\n" ++ after) = stripMarkers (before ++ after)

/-- The bracket of the attribute closes on the line, in front of `tail`. -/
def ClosesBefore (line tail : List Char) : Prop :=
  ∃ inner, trimStart line = '#' :: '[' :: (inner ++ ']' :: tail) ∧ bracketBalance inner = 0

theorem ClosesBefore.balance {line tail : List Char} (h : ClosesBefore line tail) :
    bracketBalance line = bracketBalance tail := by
  obtain ⟨inner, hline, hinner⟩ := h
  have hmark : bracketBalance ['#'] = 0 := rfl
  have hopening : bracketBalance ['['] = 1 := rfl
  have hclosing : bracketBalance [']'] = -1 := rfl
  rw [← bracketBalance_trimStart, hline, bracketBalance_cons, bracketBalance_cons '[',
    bracketBalance_append, bracketBalance_cons ']', hinner, hmark, hopening, hclosing]
  omega

theorem toList_around (before line after : String) :
    (before ++ line ++ "\n" ++ after).toList =
      before.toList ++ (line.toList ++ '\n' :: after.toList) := by
  simp [show "\n".toList = ['\n'] from rfl]

/-- Behind an attribute whose line opens too much, a line of one letter does not stay. -/
theorem not_goesAlone {line : String} (hline : IsLine line.toList)
    (hmarker : markerOf? line.toList = some .attribute)
    (hbalance : 0 < bracketBalance line.toList) : ¬ GoesAlone line := by
  intro h
  have hsurrounds : Surrounds "".toList "x\n".toList :=
    ⟨by decide, isWhole_nil, by decide, by decide⟩
  have hlines : survivors ("" ++ line ++ "\n" ++ "x\n").toList = [] := by
    rw [toList_around, hsurrounds.survivors_line hline hmarker,
      show normalLines "x\n".toList = [['x']] by decide, dropOpen, if_neg (by omega)]
    rfl
  have hcopy := h "" "x\n" hsurrounds
  rw [stripMarkers, stripMarkers, String.ofList_inj] at hcopy
  have hshort : (stripMarkersChars ("" ++ line ++ "\n" ++ "x\n").toList).length ≤ 1 := by
    rw [stripMarkersChars_eq, hlines]
    split_ifs <;> decide
  rw [hcopy] at hshort
  exact absurd hshort (by decide)

theorem goesAlone_iff_balance {line : String} (hline : IsLine line.toList)
    (hmarker : markerOf? line.toList = some .attribute) :
    GoesAlone line ↔ bracketBalance line.toList ≤ 0 := by
  constructor
  · intro h
    by_contra hbalance
    exact not_goesAlone hline hmarker (by omega) h
  · intro hbalance before after h
    rw [stripMarkers, stripMarkers, toList_around, String.toList_append,
      h.stripMarkersChars_line hline hmarker hbalance]

/-- A closed attribute goes alone if and only if the rest of its line opens no more brackets than it
closes. What goes with it otherwise are the lines that make up the balance. -/
theorem goesAlone_iff {line : String} (hline : IsLine line.toList)
    (hmarker : markerOf? line.toList = some .attribute) :
    (GoesAlone line ↔ bracketBalance line.toList ≤ 0) ∧
      (∀ tail, ClosesBefore line.toList tail → (GoesAlone line ↔ bracketBalance tail ≤ 0)) ∧
      ∀ before after : String, Surrounds before.toList after.toList →
        survivors (before ++ line ++ "\n" ++ after).toList =
          survivors before.toList ++
            keptLines (dropOpen (bracketBalance line.toList) (normalLines after.toList)) := by
  refine ⟨goesAlone_iff_balance hline hmarker, ?_, ?_⟩
  · intro tail htail
    rw [goesAlone_iff_balance hline hmarker, htail.balance]
  · intro before after h
    rw [toList_around]
    exact h.survivors_line hline hmarker

/-- An attribute in front of the struct it is for, on one line. -/
def attributeLine : String := "  #[grpc_service(models = [Person])] pub struct People;"

theorem goesAlone_attributeLine :
    IsLine attributeLine.toList ∧ markerOf? attributeLine.toList = some .attribute ∧
      ClosesBefore attributeLine.toList " pub struct People;".toList ∧ GoesAlone attributeLine := by
  have hchars : attributeLine.toList = _ := String.toList_ofList
  have hrest : " pub struct People;".toList = _ := String.toList_ofList
  have hinner : "grpc_service(models = [Person])".toList = _ := String.toList_ofList
  have hline : IsLine attributeLine.toList := by
    rw [hchars]
    exact ⟨by decide, by decide, by decide⟩
  have hmarker : markerOf? attributeLine.toList = some .attribute := by
    rw [hchars]
    decide
  have hcloses : ClosesBefore attributeLine.toList " pub struct People;".toList := by
    refine ⟨"grpc_service(models = [Person])".toList, ?_, ?_⟩
    · rw [hchars, hrest, hinner]
      decide
    · rw [hinner]
      decide
  refine ⟨hline, hmarker, hcloses, ((goesAlone_iff hline hmarker).2.1 _ hcloses).mpr ?_⟩
  rw [hrest]
  decide

/-- An attribute with a remark that leaves a bracket open. -/
def remarkLine : String := "#[grpc_model] // wire order (see notes"

def personStruct : String := "pub struct Person \x7b\n    pub id: i32,\n\x7d\n"

/-- With the bracket of the remark the attribute stays open, and the struct it is for is lost. -/
theorem remark_swallows_person :
    IsLine remarkLine.toList ∧ markerOf? remarkLine.toList = some .attribute ∧
      ClosesBefore remarkLine.toList " // wire order (see notes".toList ∧
      Surrounds "".toList personStruct.toList ∧
      stripMarkers ("" ++ personStruct) = personStruct ∧
      stripMarkers ("" ++ remarkLine ++ "\n" ++ personStruct) = "\n" := by
  have hremark : remarkLine.toList = _ := String.toList_ofList
  have hstruct : personStruct.toList = _ := String.toList_ofList
  have hrest : " // wire order (see notes".toList = _ := String.toList_ofList
  refine ⟨?_, ?_, ⟨"grpc_model".toList, ?_, by decide⟩, ⟨?_, isWhole_nil, by decide, ?_⟩, ?_, ?_⟩
  · rw [hremark]
    exact ⟨by decide, by decide, by decide⟩
  · rw [hremark]
    decide
  · rw [hremark, hrest]
    decide
  · rw [hstruct]
    decide
  · rw [hstruct]
    decide
  · rw [String.empty_append, stripMarkers, ← String.toList_inj, String.toList_ofList, hstruct]
    decide
  · rw [stripMarkers, ← String.toList_inj, String.toList_ofList, toList_around, hremark, hstruct]
    decide

end RpcScaffold.SourceText
