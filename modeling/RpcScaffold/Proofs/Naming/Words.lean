import Mathlib.Data.List.Basic
import RpcScaffold.Naming

/-!
# The characters of derived names

A name loses everything but letters and digits when it is cut into words. Changing the case of a
letter gives letters, digits and marks.
-/

namespace RpcScaffold.Text

/-! ## Cutting -/

theorem cut_flatten (p : Char → Bool) (cs : List Char) :
    (cut p cs).1 ++ (cut p cs).2.flatten = cs.filter (!p ·) := by
  induction cs with
  | nil => rfl
  | cons c rest ih =>
    rw [cut, List.foldr_cons, ← cut]
    split_ifs with h
    · rw [List.filter_cons_of_neg (by simp [h]), ← ih]
      rfl
    · rw [List.filter_cons_of_pos (by simp [h]), ← ih]
      rfl

theorem split_flatten (p : Char → Bool) (cs : List Char) :
    (split p cs).flatten = cs.filter (!p ·) := cut_flatten p cs

theorem split_cons_of_neg {p : Char → Bool} {c : Char} (h : p c = false) {cs piece : List Char}
    {pieces : List (List Char)} (hs : split p cs = piece :: pieces) :
    split p (c :: cs) = (c :: piece) :: pieces := by
  rw [split] at hs ⊢
  obtain ⟨h1, h2⟩ := List.cons.inj hs
  simp [cut, h] at h1 h2 ⊢
  exact ⟨h1, h2⟩

theorem split_of_forall_neg {p : Char → Bool} {cs : List Char} (h : ∀ c ∈ cs, p c = false) :
    split p cs = [cs] := by
  induction cs with
  | nil => rfl
  | cons c rest ih =>
    rw [List.forall_mem_cons] at h
    exact split_cons_of_neg h.1 (ih h.2)

/-- A piece, a separator and more. -/
theorem split_append_cons {p : Char → Bool} {piece : List Char} (h : ∀ c ∈ piece, p c = false)
    {c : Char} (hc : p c = true) (cs : List Char) :
    split p (piece ++ c :: cs) = piece :: split p cs := by
  induction piece with
  | nil => exact split_cons_of_pos hc cs
  | cons d rest ih =>
    rw [List.forall_mem_cons] at h
    exact split_cons_of_neg h.1 (ih h.2)

/-- Pieces joined by a separator are found again. -/
theorem split_join_singleton {p : Char → Bool} {c : Char} (hc : p c = true)
    {pieces : List (List Char)} (hne : pieces ≠ [])
    (h : ∀ piece ∈ pieces, ∀ d ∈ piece, p d = false) : split p (join [c] pieces) = pieces := by
  induction pieces with
  | nil => exact absurd rfl hne
  | cons first others ih =>
    rw [List.forall_mem_cons] at h
    cases others with
    | nil => simpa [join] using split_of_forall_neg h.1
    | cons second rest =>
      rw [join, List.intercalate_cons_cons, List.append_assoc, List.singleton_append,
        split_append_cons h.1 hc]
      congr 1
      exact ih (by simp) h.2

/-- The pieces before a separator, and the pieces after it. -/
theorem split_append {p : Char → Bool} {c : Char} (hc : p c = true) (as bs : List Char) :
    split p (as ++ c :: bs) = split p as ++ split p bs := by
  induction as with
  | nil => exact split_cons_of_pos hc bs
  | cons a rest ih =>
    rw [List.cons_append]
    cases ha : p a with
    | true => rw [split_cons_of_pos ha, split_cons_of_pos ha, ih, List.cons_append]
    | false =>
      obtain ⟨piece, pieces, hpieces⟩ := List.exists_cons_of_ne_nil (split_ne_nil p rest)
      rw [hpieces, List.cons_append] at ih
      rw [split_cons_of_neg ha ih, split_cons_of_neg ha hpieces, List.cons_append]

theorem length_split (p : Char → Bool) (cs : List Char) :
    (split p cs).length = cs.countP p + 1 := by
  induction cs with
  | nil => rfl
  | cons c rest ih =>
    cases hc : p c with
    | true => rw [split_cons_of_pos hc, List.length_cons, ih, List.countP_cons_of_pos hc]
    | false =>
      obtain ⟨piece, pieces, hpieces⟩ := List.exists_cons_of_ne_nil (split_ne_nil p rest)
      rw [hpieces] at ih
      rw [split_cons_of_neg hc hpieces, List.countP_cons_of_neg (by simp [hc]), ← ih]
      rfl

/-- The last piece ends where the text ends. -/
theorem split_concat {p : Char → Bool} {c : Char} (h : p c = false) (cs : List Char) :
    ∃ pieces piece, split p (cs ++ [c]) = pieces ++ [piece ++ [c]] := by
  induction cs with
  | nil => exact ⟨[], [], split_cons_of_neg h (split_nil p)⟩
  | cons d rest ih =>
    obtain ⟨pieces, piece, hs⟩ := ih
    rw [List.cons_append]
    cases hd : p d with
    | true => exact ⟨[] :: pieces, piece, by rw [split_cons_of_pos hd, hs]; rfl⟩
    | false =>
      cases pieces with
      | nil => exact ⟨[], d :: piece, split_cons_of_neg hd hs⟩
      | cons first others => exact ⟨(d :: first) :: others, piece, split_cons_of_neg hd hs⟩

/-! ## Words -/

theorem prepend_flatten (c : Char) (ws : List (List Char)) :
    (prepend c ws).flatten = c :: ws.flatten := by
  cases ws <;> rfl

theorem wordsFrom_flatten (m : Mode) (cs : List Char) : (wordsFrom m cs).flatten = cs := by
  induction m, cs using wordsFrom.induct with
  | case1 => rfl
  | case2 => rfl
  | case3 m c d rest h ih => rw [wordsFrom, if_pos h, List.flatten_cons, ih]; rfl
  | case4 m c d rest h h' ih =>
    rw [wordsFrom, if_neg h, if_pos h', List.flatten_cons, prepend_flatten, ih]
    rfl
  | case5 m c d rest h h' ih => rw [wordsFrom, if_neg h, if_neg h', prepend_flatten, ih]

theorem words_flatten (cs : List Char) : (words cs).flatten = cs.filter isAlphanumeric := by
  have hpieces : ∀ pieces : List (List Char),
      (pieces.flatMap (wordsFrom .boundary)).flatten = pieces.flatten := by
    intro pieces
    induction pieces with
    | nil => rfl
    | cons piece rest ih =>
      rw [List.flatMap_cons, List.flatten_append, wordsFrom_flatten, ih, List.flatten_cons]
  rw [words, hpieces, split_flatten]
  simp

theorem of_mem_words {cs w : List Char} (h : w ∈ words cs) {c : Char} (hc : c ∈ w) :
    c ∈ cs ∧ isAlphanumeric c = true := by
  have hmem : c ∈ (words cs).flatten := List.mem_flatten.mpr ⟨w, h, hc⟩
  rwa [words_flatten, List.mem_filter] at hmem

theorem ne_nil_of_mem_prepend {c : Char} {ws : List (List Char)} (h : ∀ w ∈ ws.tail, w ≠ []) :
    ∀ w ∈ prepend c ws, w ≠ [] := by
  cases ws with
  | nil => simp [prepend]
  | cons v vs => simpa [prepend] using h

/-- The scan only leaves the first word empty, and only behind a capital. -/
theorem ne_nil_of_mem_wordsFrom (m : Mode) (cs : List Char) :
    (∀ w ∈ (wordsFrom m cs).tail, w ≠ []) ∧ (m ≠ .upper → ∀ w ∈ wordsFrom m cs, w ≠ []) := by
  induction m, cs using wordsFrom.induct with
  | case1 m => simp [wordsFrom]
  | case2 m c => simp [wordsFrom]
  | case3 m c d rest hcut ih =>
    have hall := ih.2 (by simp)
    rw [wordsFrom, if_pos hcut]
    exact ⟨hall, fun _ => List.forall_mem_cons.mpr ⟨by simp, hall⟩⟩
  | case4 m c d rest hcut hcut' ih =>
    rw [wordsFrom, if_neg hcut, if_pos hcut']
    exact ⟨ne_nil_of_mem_prepend ih.1, fun hm => (hm hcut'.1).elim⟩
  | case5 m c d rest hcut hcut' ih =>
    have hall := ne_nil_of_mem_prepend (c := c) ih.1
    rw [wordsFrom, if_neg hcut, if_neg hcut']
    exact ⟨fun w hw => hall w (List.mem_of_mem_tail hw), fun _ => hall⟩

theorem ne_nil_of_mem_words {cs w : List Char} (h : w ∈ words cs) : w ≠ [] := by
  obtain ⟨piece, -, hw⟩ := List.mem_flatMap.mp h
  exact (ne_nil_of_mem_wordsFrom .boundary piece).2 (by simp) w hw

theorem prepend_concat (c : Char) (ws : List (List Char)) (w : List Char) :
    ∃ ws' w', prepend c (ws ++ [w]) = ws' ++ [w'] ∧ w <:+ w' := by
  cases ws with
  | nil => exact ⟨[], c :: w, rfl, List.suffix_cons c w⟩
  | cons first others => exact ⟨(c :: first) :: others, w, rfl, List.suffix_rfl⟩

theorem suffix_tail {e c d : Char} {rest : List Char} (h : [e] <:+ c :: d :: rest) :
    [e] <:+ d :: rest := by
  rcases List.suffix_cons_iff.mp h with h | h
  · simp at h
  · exact h

/-- The last word ends where the piece ends. -/
theorem wordsFrom_suffix (m : Mode) {cs : List Char} {e : Char} (h : [e] <:+ cs) :
    ∃ ws w, wordsFrom m cs = ws ++ [w] ∧ [e] <:+ w := by
  induction m, cs using wordsFrom.induct with
  | case1 => simp at h
  | case2 m c => exact ⟨[], [c], rfl, h⟩
  | case3 m c d rest hc ih =>
    obtain ⟨ws, w, hw, he⟩ := ih (suffix_tail h)
    exact ⟨[c] :: ws, w, by rw [wordsFrom, if_pos hc, hw]; rfl, he⟩
  | case4 m c d rest hc hc' ih =>
    obtain ⟨ws, w, hw, he⟩ := ih (suffix_tail h)
    obtain ⟨ws', w', hw', hww⟩ := prepend_concat c ws w
    refine ⟨[] :: ws', w', ?_, he.trans hww⟩
    rw [wordsFrom, if_neg hc, if_pos hc', hw, hw']
    rfl
  | case5 m c d rest hc hc' ih =>
    obtain ⟨ws, w, hw, he⟩ := ih (suffix_tail h)
    obtain ⟨ws', w', hw', hww⟩ := prepend_concat c ws w
    refine ⟨ws', w', ?_, he.trans hww⟩
    rw [wordsFrom, if_neg hc, if_neg hc', hw, hw']

theorem words_concat {e : Char} (he : isAlphanumeric e = true) (cs : List Char) :
    ∃ ws w, words (cs ++ [e]) = ws ++ [w] ∧ [e] <:+ w := by
  have hnot : (!isAlphanumeric e) = false := by simp [he]
  obtain ⟨pieces, piece, hs⟩ := split_concat (p := fun c => !isAlphanumeric c) hnot cs
  obtain ⟨ws, w, hw, hew⟩ := wordsFrom_suffix .boundary (List.suffix_append piece [e])
  refine ⟨pieces.flatMap (wordsFrom .boundary) ++ ws, w, ?_, hew⟩
  rw [words, hs, List.flatMap_append, List.flatMap_cons, List.flatMap_nil, List.append_nil, hw,
    List.append_assoc]

/-! ## Case -/

theorem lowerWord_suffix {e : Char} (he : isAscii e = true) {w : List Char} (h : [e] <:+ w) :
    [e.toLower] <:+ lowerWord w := by
  have hone : lowerWord [e] = [e.toLower] := by
    rw [lowerWord]
    · simp [lowerForm, he, lowerWord]
    · rintro rfl
      simp [isAscii] at he
  induction w with
  | nil => simp at h
  | cons c rest ih =>
    rcases List.suffix_cons_iff.mp h with h | h
    · have hword : lowerWord (c :: rest) = [e.toLower] := by rw [← h, hone]
      exact ⟨[], hword.symm⟩
    · have hne : rest ≠ [] := by
        rintro rfl
        simp at h
      rw [lowerWord]
      · exact (ih h).trans (List.suffix_append _ _)
      · rintro - rfl
        exact hne rfl

theorem join_concat (glue last : List Char) (pieces : List (List Char)) :
    last <:+ join glue (pieces ++ [last]) := by
  induction pieces with
  | nil => simp [join]
  | cons first others ih =>
    rw [join, List.cons_append, List.intercalate_cons_of_ne_nil (by simp)]
    exact ih.trans (List.suffix_append _ _)

/-- A name in snake case ends like the name. -/
theorem snakeCase_suffix {name : String} {e : Char} (hascii : isAscii e = true)
    (halnum : e.isAlphanum = true) (h : [e] <:+ name.toList) :
    [e.toLower] <:+ (snakeCase name).toList := by
  obtain ⟨front, hfront⟩ := h
  have he : isAlphanumeric e = true := by simp [isAlphanumeric, hascii, halnum]
  obtain ⟨ws, w, hw, hew⟩ := words_concat he front
  rw [snakeCase, ← hfront, hw, List.map_append, String.toList_ofList]
  exact (lowerWord_suffix hascii hew).trans (join_concat _ _ _)

end RpcScaffold.Text
