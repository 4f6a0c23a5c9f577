import RpcScaffold.Proofs.SourceText.Markers

/-!
# What copies consist of

A line of a copy is a line of the normal text that starts no marker, or is empty. So a copy is in
normal form and free of markers, and there is nothing to do for a second pass.
-/

namespace RpcScaffold.Text

theorem trimEnd_trimEnd (cs : List Char) : trimEnd (trimEnd cs) = trimEnd cs :=
  List.rdropWhile_idempotent isBlank cs

/-! ## Pieces -/

section

variable {c d : Char} {cs piece : List Char}

theorem mem_piece (h : piece ∈ split (· == c) cs) (hd : d ∈ piece) : d ∈ cs ∧ d ≠ c := by
  have hflat : d ∈ (split (· == c) cs).flatten := List.mem_flatten.mpr ⟨piece, h, hd⟩
  rw [split_flatten, List.mem_filter] at hflat
  simpa using hflat

theorem exists_piece (hd : d ∈ cs) (hne : d ≠ c) : ∃ piece ∈ split (· == c) cs, d ∈ piece := by
  rw [← List.mem_flatten, split_flatten, List.mem_filter]
  simpa using ⟨hd, hne⟩

theorem join_split (c : Char) (cs : List Char) : join [c] (split (· == c) cs) = cs := by
  induction cs with
  | nil => rfl
  | cons d rest ih =>
    obtain ⟨first, others, hsplit⟩ := List.exists_cons_of_ne_nil (split_ne_nil (· == c) rest)
    cases hd : d == c with
    | true =>
      rw [split_cons_of_pos (p := (· == c)) hd, join,
        List.intercalate_cons_of_ne_nil (split_ne_nil _ _), ← join, ih, eq_of_beq hd]
      rfl
    | false =>
      rw [split_cons_of_neg (p := (· == c)) hd hsplit]
      rw [hsplit] at ih
      cases others with
      | nil => simpa [join] using ih
      | cons second more => simpa [join] using ih

/-- Pieces that are joined and cut again stay as they are, but no pieces make an empty one. -/
theorem mem_split_join {pieces : List (List Char)} (h : ∀ piece ∈ pieces, c ∉ piece)
    (hpiece : piece ∈ split (· == c) (join [c] pieces)) : piece = [] ∨ piece ∈ pieces := by
  by_cases hne : pieces = []
  · subst hne
    exact .inl (List.mem_singleton.mp hpiece)
  · have hapart : ∀ piece ∈ pieces, ∀ d ∈ piece, (d == c) = false := by
      intro piece hmem d hd
      rw [beq_eq_false_iff_ne]
      rintro rfl
      exact h piece hmem hd
    rw [split_join_singleton (p := (· == c)) (beq_self_eq_true c) hne hapart] at hpiece
    exact .inr hpiece

end

end RpcScaffold.Text

namespace RpcScaffold.SourceText

open Text

/-! ## Lines of a text without carriage returns -/

section

variable {cs : List Char}

theorem map_dropReturn {pieces : List (List Char)} (h : ∀ piece ∈ pieces, '\r' ∉ piece) :
    pieces.map lines.dropReturn = pieces := by
  refine (List.map_congr_left fun piece hpiece => ?_).trans (List.map_id' pieces)
  exact if_neg fun hlast => h piece hpiece (List.mem_of_getLast? hlast)

/-- A last line feed starts no line. -/
theorem lines_cases (h : '\r' ∉ cs) :
    cs = [] ∨ (∃ text, cs = text ++ ['\n'] ∧ lines cs = split (· == '\n') text) ∨
      cs.getLast? ≠ some '\n' ∧ lines cs = split (· == '\n') cs := by
  have hpieces : ∀ {text piece}, '\r' ∉ text → piece ∈ split (· == '\n') text → '\r' ∉ piece :=
    fun htext hpiece hreturn => htext (mem_piece hpiece hreturn).1
  rcases List.eq_nil_or_concat' cs with rfl | ⟨text, c, rfl⟩
  · exact .inl rfl
  · have htext : '\r' ∉ text := fun hin => h (List.mem_append_left _ hin)
    by_cases hc : c = '\n'
    · subst hc
      refine .inr (.inl ⟨text, rfl, ?_⟩)
      rw [lines_feed, map_dropReturn fun _ => hpieces htext]
      exact List.append_nil _
    · refine .inr (.inr ⟨by simpa using hc, ?_⟩)
      obtain ⟨front, last, hsplit⟩ :=
        split_concat (p := (· == '\n')) (beq_eq_false_iff_ne.mpr hc) text
      have hfront : ∀ piece ∈ front, '\r' ∉ piece :=
        fun piece hpiece => hpieces h (hsplit ▸ List.mem_append_left _ hpiece)
      rw [lines, hsplit]
      simp [map_dropReturn hfront]

theorem mem_lines {line : List Char} (h : '\r' ∉ cs) (hline : line ∈ lines cs) :
    line ∈ split (· == '\n') cs := by
  rcases lines_cases h with rfl | ⟨text, rfl, hlines⟩ | ⟨-, hlines⟩
  · cases hline
  · rw [split_append (p := (· == '\n')) (by rfl)]
    exact List.mem_append_left _ (hlines ▸ hline)
  · rwa [← hlines]

/-- The lines, put together again. -/
theorem join_lines (h : '\r' ∉ cs) :
    (if cs.getLast? = some '\n' then join ['\n'] (lines cs) ++ ['\n'] else join ['\n'] (lines cs)) =
      cs := by
  rcases lines_cases h with rfl | ⟨text, rfl, hlines⟩ | ⟨hlast, hlines⟩
  · rfl
  · rw [if_pos (by simp), hlines, join_split]
  · rw [if_neg hlast, hlines, join_split]

end

/-! ## Normal texts -/

/-- The line can stand in a normal text. -/
structure IsNormalLine (line : List Char) : Prop extends IsLine line where
  trimmed : trimEnd line = line

theorem isNormalLine_nil : IsNormalLine [] := ⟨⟨by simp, by simp, by simp⟩, rfl⟩

def IsNormal (cs : List Char) : Prop := ∀ line ∈ split (· == '\n') cs, IsNormalLine line

section

variable {cs line : List Char}

theorem IsNormal.noReturn (h : IsNormal cs) : '\r' ∉ cs := by
  intro hreturn
  obtain ⟨line, hline, hin⟩ := exists_piece (c := '\n') hreturn (by decide)
  exact (h line hline).noReturn hin

theorem IsNormal.noMark (h : IsNormal cs) : '\uFEFF' ∉ cs := by
  intro hmark
  obtain ⟨line, hline, hin⟩ := exists_piece (c := '\n') hmark (by decide)
  exact (h line hline).noMark hin

theorem IsNormal.normalizeChars_eq (h : IsNormal cs) : normalizeChars cs = cs := by
  have htrimmed : (split (· == '\n') cs).map trimEnd = split (· == '\n') cs :=
    (List.map_congr_left fun line hline => (h line hline).trimmed).trans (List.map_id' _)
  rw [normalizeChars_of_not_mem h.noMark, unifyBreaks_of_not_mem h.noReturn, trimLines, htrimmed,
    join_split]

theorem not_mem_unifyBreaks (cs : List Char) : '\r' ∉ unifyBreaks cs := by
  rw [unifyBreaks]
  induction cs with
  | nil => simp
  | cons c rest ih =>
    rw [List.foldr_cons, unifyBreak]
    split_ifs with hc hended
    · exact ih
    · simpa using ih
    · simpa [Ne.symm hc] using ih

theorem mem_of_mem_unifyBreaks {c : Char} (hc : c ≠ '\n') (h : c ∈ unifyBreaks cs) : c ∈ cs := by
  rw [unifyBreaks] at h
  induction cs with
  | nil => exact h
  | cons d rest ih =>
    rw [List.foldr_cons, unifyBreak] at h
    split_ifs at h
    · exact List.mem_cons_of_mem d (ih h)
    · exact List.mem_cons_of_mem d (ih ((List.mem_cons.mp h).resolve_left hc))
    · rcases List.mem_cons.mp h with rfl | h
      · exact List.mem_cons_self
      · exact List.mem_cons_of_mem d (ih h)

theorem split_trimLines (cs : List Char) :
    split (· == '\n') (trimLines cs) = (split (· == '\n') cs).map trimEnd := by
  rw [trimLines, split_join_singleton (p := (· == '\n')) (by rfl) (by simp [split_ne_nil])]
  rw [List.forall_mem_map]
  intro piece hpiece c hc
  rw [beq_eq_false_iff_ne]
  exact (mem_piece hpiece (mem_of_mem_trimEnd hc)).2

/-- The lines of a text in normal form are those that the text has with one kind of line ends. -/
theorem exists_of_mem_normal (h : line ∈ split (· == '\n') (normalizeChars cs)) :
    ∃ piece ∈ split (· == '\n') (unifyBreaks (dropMark cs)), line = trimEnd piece := by
  rw [show normalizeChars cs = trimLines (unifyBreaks (dropMark cs)) from rfl, split_trimLines] at h
  obtain ⟨piece, hpiece, rfl⟩ := List.mem_map.mp h
  exact ⟨piece, hpiece, rfl⟩

theorem noReturn_normalizeChars (cs : List Char) : '\r' ∉ normalizeChars cs := by
  intro hreturn
  obtain ⟨line, hline, hin⟩ := exists_piece (c := '\n') hreturn (by decide)
  obtain ⟨piece, hpiece, rfl⟩ := exists_of_mem_normal hline
  exact not_mem_unifyBreaks _ (mem_piece hpiece (mem_of_mem_trimEnd hin)).1

theorem isNormal_normalizeChars (h : '\uFEFF' ∉ dropMark cs) : IsNormal (normalizeChars cs) := by
  intro line hline
  obtain ⟨piece, hpiece, rfl⟩ := exists_of_mem_normal hline
  have hmem : ∀ c ∈ trimEnd piece, c ∈ unifyBreaks (dropMark cs) ∧ c ≠ '\n' :=
    fun c hc => mem_piece hpiece (mem_of_mem_trimEnd hc)
  refine ⟨⟨fun hin => (hmem _ hin).2 rfl, fun hin => ?_, fun hin => ?_⟩, trimEnd_trimEnd piece⟩
  · exact not_mem_unifyBreaks _ (hmem _ hin).1
  · exact h (mem_of_mem_unifyBreaks (by decide) (hmem _ hin).1)

/-! ## Lines that stay -/

/-- The line is a marker, or the first line of one. -/
def StartsMarker (line : List Char) : Prop :=
  ∃ mark ∈ markerAttributes ++ markerImports, mark.toList <+: trimStart line

theorem markerOf?_eq_none : markerOf? line = none ↔ ¬ StartsMarker line := by
  simp only [markerOf?, StartsMarker, List.mem_append, List.any_eq_true, List.isPrefixOf_iff_prefix]
  split_ifs with hattribute himport
  · grind
  · grind
  · grind

theorem mem_keptLines {lines : List (List Char)} (h : line ∈ keptLines lines) :
    line ∈ lines ∧ ¬ StartsMarker line := by
  have hscan : ∀ s : Scan, line ∈ (lines.foldl Scan.line s).kept →
      line ∈ s.kept ∨ line ∈ lines ∧ ¬ StartsMarker line := by
    clear h
    induction lines with
    | nil => exact fun s h => .inl h
    | cons first rest ih =>
      intro s h
      rcases ih (s.line first) h with hkept | ⟨hrest, hmarker⟩
      · rw [Scan.line] at hkept
        split at hkept
        · exact .inl hkept
        · split at hkept
          · exact .inl hkept
          · next hnone =>
            rcases List.mem_cons.mp hkept with rfl | hkept
            · exact .inr ⟨List.mem_cons_self, markerOf?_eq_none.mp hnone⟩
            · exact .inl hkept
      · exact .inr ⟨List.mem_cons_of_mem first hrest, hmarker⟩
  simpa using hscan {} (by simpa [keptLines] using h)

theorem keptLines_eq_self {lines : List (List Char)} (h : ∀ line ∈ lines, ¬ StartsMarker line) :
    keptLines lines = lines := by
  induction lines with
  | nil => rfl
  | cons first rest ih =>
    rw [List.forall_mem_cons] at h
    have hfirst : [first].foldl Scan.line {} = { kept := [first] } := by
      rw [List.foldl_cons, List.foldl_nil, Scan.line, markerOf?_eq_none.mpr h.1]
    rw [← List.singleton_append, keptLines_append (by rw [hfirst]), ih h.2, keptLines, hfirst]
    rfl

theorem mem_survivors (h : line ∈ survivors cs) :
    line ∈ split (· == '\n') (normalizeChars cs) ∧ ¬ StartsMarker line := by
  obtain ⟨hline, hmarker⟩ := mem_keptLines h
  exact ⟨mem_lines (noReturn_normalizeChars cs) hline, hmarker⟩

theorem mem_copy (h : line ∈ split (· == '\n') (stripMarkersChars cs)) :
    line = [] ∨ line ∈ survivors cs := by
  have hpieces : ∀ piece ∈ survivors cs, '\n' ∉ piece :=
    fun piece hpiece hfeed => (mem_piece (mem_survivors hpiece).1 hfeed).2 rfl
  rw [stripMarkersChars_eq] at h
  split_ifs at h
  · rw [split_append (p := (· == '\n')) (by rfl), List.mem_append] at h
    rcases h with h | h
    · exact mem_split_join hpieces h
    · exact .inl (List.mem_singleton.mp h)
  · exact mem_split_join hpieces h

/-! ## Copies -/

/-- No line of the text starts with a marker, but for blanks in front of it. -/
def MarkerFree (s : String) : Prop :=
  ∀ line ∈ split (· == '\n') s.toList, ¬ StartsMarker line

theorem not_startsMarker_copy (h : line ∈ split (· == '\n') (stripMarkersChars cs)) :
    ¬ StartsMarker line := by
  rcases mem_copy h with rfl | hline
  · exact markerOf?_eq_none.mp (by decide)
  · exact (mem_survivors hline).2

theorem stripMarkersChars_eq_normalizeChars
    (h : ∀ line ∈ split (· == '\n') (normalizeChars cs), ¬ StartsMarker line) :
    stripMarkersChars cs = normalizeChars cs := by
  have hreturn := noReturn_normalizeChars cs
  rw [stripMarkersChars_eq, survivors, normalLines,
    keptLines_eq_self fun line hline => h line (mem_lines hreturn hline)]
  exact join_lines hreturn

theorem isNormal_stripMarkersChars (h : '\uFEFF' ∉ dropMark cs) :
    IsNormal (stripMarkersChars cs) := by
  intro line hline
  rcases mem_copy hline with rfl | hline
  · exact isNormalLine_nil
  · exact isNormal_normalizeChars h line (mem_survivors hline).1

theorem stripMarkersChars_stripMarkersChars (h : '\uFEFF' ∉ dropMark cs) :
    stripMarkersChars (stripMarkersChars cs) = stripMarkersChars cs := by
  have hnormal := (isNormal_stripMarkersChars h).normalizeChars_eq
  rw [stripMarkersChars_eq_normalizeChars, hnormal]
  rw [hnormal]
  exact fun line hline => not_startsMarker_copy hline

theorem not_mem_dropMark (h : '\uFEFF' ∉ cs.tail) : '\uFEFF' ∉ dropMark cs := by
  unfold dropMark
  split
  · exact h
  · next hfirst =>
    intro hmark
    cases cs with
    | nil => cases hmark
    | cons c rest =>
      rcases List.mem_cons.mp hmark with rfl | hrest
      · exact hfirst rest rfl
      · exact h hrest

end

theorem markerFree_stripMarkers (s : String) : MarkerFree (stripMarkers s) := by
  intro line hline
  rw [stripMarkers, String.toList_ofList] at hline
  exact not_startsMarker_copy hline

theorem stripMarkers_eq_normalize {s : String} (h : MarkerFree (normalize s)) :
    stripMarkers s = normalize s := by
  rw [MarkerFree, normalize, String.toList_ofList] at h
  rw [stripMarkers, stripMarkersChars_eq_normalizeChars h, normalize]

/-- A text with at most one byte-order mark, at its start, has nothing left to change after one
pass. -/
theorem passes_idempotent {s : String} (h : '\uFEFF' ∉ s.toList.tail) :
    normalize (normalize s) = normalize s ∧ stripMarkers (stripMarkers s) = stripMarkers s := by
  have hmark := not_mem_dropMark h
  constructor
  · rw [normalize, normalize, String.toList_ofList,
      (isNormal_normalizeChars hmark).normalizeChars_eq]
  · rw [stripMarkers, stripMarkers, String.toList_ofList, stripMarkersChars_stripMarkersChars hmark]

/-- A text with a wrapped marker, blank lines around it, and a marker that is never closed. -/
def wrappedSource : String :=
  "\uFEFF\r\n#[grpc_service(\r\nmodels = [Person]\r\n)]\r\n\r\npub struct People;  \n\n#[grpc_model"

theorem passes_idempotent_wrapped : '\uFEFF' ∉ wrappedSource.toList.tail ∧
    stripMarkers wrappedSource = "\n\npub struct People;\n" ∧
    stripMarkers (stripMarkers wrappedSource) = stripMarkers wrappedSource := by
  have hchars : wrappedSource.toList = _ := String.toList_ofList
  have hmark : '\uFEFF' ∉ wrappedSource.toList.tail := by
    rw [hchars]
    decide
  refine ⟨hmark, ?_, (passes_idempotent hmark).2⟩
  rw [stripMarkers, ← String.toList_inj, String.toList_ofList, hchars]
  decide

end RpcScaffold.SourceText
