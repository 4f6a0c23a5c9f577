import RpcScaffold.Proofs.Naming.Words

/-!
# Where words start

A piece of a name is cut by its cases alone. A word starts at a capital that stands behind a
lower-case letter, or that stands behind a capital and in front of a lower-case letter. Characters
without case in between do not count, and a cut does not change where the next one is.
-/

namespace RpcScaffold.Text

/-- The mode behind more text. -/
def Mode.over (m : Mode) (cs : List Char) : Mode := cs.foldl Mode.after m

/-- A word starts at the text, behind text of mode `m`. -/
def startsWord (m : Mode) : List Char → Bool
  | [] => false
  | c :: rest => isUpper c && (m == .lower || m == .upper && rest.head?.any isLower)

/-- The text cut at every start of a word, behind text of mode `m`. -/
def cutAtStarts (m : Mode) : List Char → List (List Char)
  | [] => []
  | c :: rest =>
    if startsWord (m.after c) rest then [c] :: cutAtStarts (m.after c) rest
    else prepend c (cutAtStarts (m.after c) rest)

/-! ## The words of a piece -/

theorem Mode.over_cons (m : Mode) (c : Char) (rest : List Char) :
    m.over (c :: rest) = (m.after c).over rest := rfl

theorem Mode.after_congr {c : Char} (h : isUpper c = true) (m m' : Mode) :
    m.after c = m'.after c := by
  simp [Mode.after, h]

theorem Mode.after_of_isLower (m : Mode) {c : Char} (h : isLower c = true) :
    m.after c = .lower := by
  simp [Mode.after, h]

theorem cutAtStarts_of_start {m : Mode} {c : Char} {rest : List Char}
    (h : startsWord (m.after c) rest = true) :
    cutAtStarts m (c :: rest) = [c] :: cutAtStarts (m.after c) rest := by
  rw [cutAtStarts, if_pos h]

theorem cutAtStarts_of_not_start {m : Mode} {c : Char} {rest : List Char}
    (h : startsWord (m.after c) rest = false) :
    cutAtStarts m (c :: rest) = prepend c (cutAtStarts (m.after c) rest) := by
  rw [cutAtStarts, h, if_neg (by simp)]

/-- A character with case hides the text in front of it. -/
theorem cutAtStarts_congr {m m' : Mode} {c : Char} (h : m.after c = m'.after c)
    (rest : List Char) : cutAtStarts m (c :: rest) = cutAtStarts m' (c :: rest) := by
  rw [cutAtStarts, cutAtStarts, h]

theorem startsWord_lower (c : Char) (rest : List Char) :
    startsWord .lower (c :: rest) = isUpper c := by
  simp [startsWord]

theorem startsWord_upper (c d : Char) (rest : List Char) :
    startsWord .upper (c :: d :: rest) = (isUpper c && isLower d) := rfl

theorem startsWord_of_not_isUpper (m : Mode) {c : Char} (h : isUpper c = false) (rest : List Char) :
    startsWord m (c :: rest) = false := by
  simp [startsWord, h]

/-- The scan marks a start at the first character by an empty word in front. -/
theorem wordsFrom_eq (m : Mode) {cs : List Char}
    (h : ∀ c ∈ cs, isLower c = true → isUpper c = false) :
    wordsFrom m cs =
      if m = .upper ∧ startsWord m cs = true then [] :: cutAtStarts m cs else cutAtStarts m cs := by
  induction m, cs using wordsFrom.induct with
  | case1 m => simp [wordsFrom, cutAtStarts, startsWord]
  | case2 m c =>
    rw [if_neg (by rintro ⟨rfl, hstart⟩; simp [startsWord] at hstart)]
    rfl
  | case3 m c d rest hcut ih =>
    obtain ⟨hlower, hupper⟩ := hcut
    have hd : isLower d = false := by
      rw [← Bool.not_eq_true]
      intro hd
      rw [h d (by simp) hd] at hupper
      cases hupper
    have hmark : ¬ (m = .upper ∧ startsWord m (c :: d :: rest) = true) := by
      rintro ⟨rfl, hstart⟩
      rw [startsWord_upper, hd, Bool.and_false] at hstart
      cases hstart
    have hafter := Mode.after_congr hupper .boundary .lower
    have hstart : startsWord (m.after c) (d :: rest) = true := by
      rw [hlower, startsWord_lower, hupper]
    rw [wordsFrom, if_pos ⟨hlower, hupper⟩, ih (List.forall_mem_cons.mp h).2, if_neg (by simp),
      if_neg hmark, cutAtStarts_of_start hstart, hlower, cutAtStarts_congr hafter]
  | case4 m c d rest hcut hcut' ih =>
    obtain ⟨rfl, hupper, hlower⟩ := hcut'
    have hd := h d (by simp) hlower
    have hafter : Mode.boundary.after d = (Mode.upper.after c).after d := by
      rw [Mode.after_of_isLower _ hlower, Mode.after_of_isLower _ hlower]
    have hmark : startsWord .upper (c :: d :: rest) = true := by
      rw [startsWord_upper, hupper, hlower]
      rfl
    have hstart : startsWord (Mode.upper.after c) (d :: rest) = false :=
      startsWord_of_not_isUpper _ hd rest
    rw [wordsFrom, if_neg hcut, if_pos ⟨rfl, hupper, hlower⟩, ih (List.forall_mem_cons.mp h).2,
      if_neg (by simp), if_pos ⟨rfl, hmark⟩, cutAtStarts_of_not_start hstart,
      cutAtStarts_congr hafter]
  | case5 m c d rest hcut hcut' ih =>
    have hmark : ¬ (m = .upper ∧ startsWord m (c :: d :: rest) = true) := by
      rintro ⟨rfl, hstart⟩
      rw [startsWord_upper, Bool.and_eq_true] at hstart
      exact hcut' ⟨rfl, hstart⟩
    rw [wordsFrom, if_neg hcut, if_neg hcut', ih (List.forall_mem_cons.mp h).2, if_neg hmark]
    cases hstart : startsWord (m.after c) (d :: rest) with
    | true =>
      -- Behind a lower-case letter the scan would have cut already.
      have hmode : m.after c = .upper := by
        rw [startsWord, Bool.and_eq_true, Bool.or_eq_true, beq_iff_eq] at hstart
        rcases hstart.2 with hlower | hmode
        · exact (hcut ⟨hlower, hstart.1⟩).elim
        · exact beq_iff_eq.mp (Bool.and_eq_true_iff.mp hmode).1
      rw [if_pos ⟨hmode, rfl⟩, cutAtStarts_of_start hstart, prepend]
    | false => rw [if_neg (by simp), cutAtStarts_of_not_start hstart]

theorem wordsFrom_eq_cutAtStarts {cs : List Char}
    (h : ∀ c ∈ cs, isLower c = true → isUpper c = false) :
    wordsFrom .boundary cs = cutAtStarts .boundary cs := by
  rw [wordsFrom_eq .boundary h, if_neg (by simp)]

theorem exists_cutAtStarts (m : Mode) (c : Char) (rest : List Char) :
    ∃ w ws, cutAtStarts m (c :: rest) = (c :: w) :: ws := by
  cases hstart : startsWord (m.after c) rest with
  | true => exact ⟨[], _, cutAtStarts_of_start hstart⟩
  | false =>
    rw [cutAtStarts_of_not_start hstart]
    cases cutAtStarts (m.after c) rest with
    | nil => exact ⟨[], [], rfl⟩
    | cons w ws => exact ⟨w, ws, rfl⟩

theorem cutAtStarts_flatten (m : Mode) (cs : List Char) : (cutAtStarts m cs).flatten = cs := by
  induction cs generalizing m with
  | nil => rfl
  | cons c rest ih =>
    cases hstart : startsWord (m.after c) rest with
    | true => rw [cutAtStarts_of_start hstart, List.flatten_cons, ih, List.singleton_append]
    | false => rw [cutAtStarts_of_not_start hstart, prepend_flatten, ih]

/-! ## Capitals -/

/-- Every capital in the text starts a word, behind text of mode `m`. -/
def CapitalsStart (m : Mode) (cs : List Char) : Prop :=
  ∀ before c after, cs = before ++ c :: after → isUpper c = true →
    startsWord (m.over before) (c :: after) = true

/-- Every capital behind the first character starts a word. -/
def KeepsCapitals : List Char → Prop
  | [] => True
  | c :: rest => CapitalsStart (Mode.boundary.after c) rest

theorem capitalsStart_nil (m : Mode) : CapitalsStart m [] := by
  rintro before c after heq
  simp at heq

theorem capitalsStart_cons {m : Mode} {c : Char} {rest : List Char} :
    CapitalsStart m (c :: rest) ↔
      (isUpper c = true → startsWord m (c :: rest) = true) ∧ CapitalsStart (m.after c) rest := by
  constructor
  · intro h
    refine ⟨h [] c rest rfl, ?_⟩
    rintro before d after rfl
    exact h (c :: before) d after rfl
  · rintro ⟨hfirst, hrest⟩ before d after heq
    cases before with
    | nil =>
      cases heq
      exact hfirst
    | cons e before =>
      cases heq
      exact hrest before d after rfl

instance CapitalsStart.decide : (m : Mode) → (cs : List Char) → Decidable (CapitalsStart m cs)
  | m, [] => isTrue (capitalsStart_nil m)
  | m, c :: rest =>
    have := CapitalsStart.decide (m.after c) rest
    decidable_of_iff' _ capitalsStart_cons

instance : DecidablePred KeepsCapitals
  | [] => isTrue trivial
  | c :: rest => CapitalsStart.decide (Mode.boundary.after c) rest

/-! ## Words in camel case -/

/-- A character and no capital behind it. -/
def IsCapped : List Char → Prop
  | [] => False
  | _ :: rest => ∀ d ∈ rest, isUpper d = false

/-- The cases of the two words tell where the second starts. -/
def KeptApart (w v : List Char) : Prop :=
  v.head?.any isUpper = true ∧
    (w.any isLower = true ∨ w.head?.any isUpper = true ∧ v.tail.head?.any isLower = true)

instance : DecidableRel KeptApart := fun w v => by
  unfold KeptApart
  infer_instance

/-- `v` in front of the first word. -/
def attach (v : List Char) : List (List Char) → List (List Char)
  | [] => [v]
  | w :: ws => (v ++ w) :: ws

theorem prepend_attach (c : Char) (v : List Char) (ws : List (List Char)) :
    prepend c (attach v ws) = attach (c :: v) ws := by
  cases ws <;> rfl

theorem prepend_eq_attach (c : Char) (ws : List (List Char)) : prepend c ws = attach [c] ws := by
  cases ws <;> rfl

/-- A capped word is not cut. The text behind it goes on with the word or starts one of its own. -/
theorem cutAtStarts_append {w : List Char} (hw : IsCapped w) (m : Mode) (rest : List Char) :
    cutAtStarts m (w ++ rest) =
      if startsWord (m.over w) rest then w :: cutAtStarts (m.over w) rest
      else attach w (cutAtStarts (m.over w) rest) := by
  match w with
  | [] => exact hw.elim
  | c :: l =>
    induction l generalizing m c with
    | nil => rw [← prepend_eq_attach]; rfl
    | cons d l ih =>
      obtain ⟨hd, hl⟩ := List.forall_mem_cons.mp hw
      have hstart : startsWord (m.after c) (d :: l ++ rest) = false :=
        startsWord_of_not_isUpper _ hd _
      rw [List.cons_append, cutAtStarts_of_not_start hstart, ih _ _ hl, ← Mode.over_cons]
      split_ifs
      · rfl
      · exact prepend_attach c (d :: l) _

theorem Mode.over_of_not_upper (m : Mode) {l : List Char} (hl : ∀ d ∈ l, isUpper d = false) :
    m.over l = if l.any isLower then .lower else m := by
  induction l generalizing m with
  | nil => rfl
  | cons d l ih =>
    obtain ⟨hd, hl⟩ := List.forall_mem_cons.mp hl
    rw [Mode.over_cons, ih _ hl, Mode.after, hd, List.any_cons]
    cases isLower d <;> simp

/-- A capped word hides the text in front of it. -/
theorem startsWord_over_iff {w : List Char} (hw : IsCapped w) (v : List Char) :
    startsWord (Mode.boundary.over w) v = true ↔ KeptApart w v := by
  match w, v with
  | [], _ => exact hw.elim
  | c :: l, [] => simp [startsWord, KeptApart]
  | c :: l, d :: v =>
    rw [Mode.over_cons, Mode.over_of_not_upper _ hw, Mode.after, KeptApart, startsWord,
      List.any_cons, List.head?_cons, List.head?_cons, List.tail_cons, Option.any_some,
      Option.any_some, Bool.and_eq_true]
    apply and_congr_right
    intro _
    cases isLower c <;> cases isUpper c <;> cases l.any isLower <;> simp

theorem startsWord_append (m : Mode) {v rest : List Char} (hv : v ≠ [])
    (hrest : rest.head?.any isLower = false) : startsWord m (v ++ rest) = startsWord m v := by
  match v with
  | [] => exact (hv rfl).elim
  | [c] => simp [startsWord, hrest]
  | c :: d :: v => rfl

theorem head_flatten_not_isLower {w : List Char} {ws : List (List Char)}
    (hws : ∀ v ∈ ws, ∀ c ∈ v, isLower c = true → isUpper c = false)
    (h : (w :: ws).IsChain KeptApart) : ws.flatten.head?.any isLower = false := by
  cases h with
  | singleton => rfl
  | @cons_cons _ v vs hv _ =>
    obtain ⟨hupper, -⟩ := hv
    match v with
    | c :: l =>
      have hc := hws (c :: l) (by simp) c (by simp)
      cases hlower : isLower c with
      | true =>
        rw [List.head?_cons, Option.any_some, hc hlower] at hupper
        cases hupper
      | false => simp [hlower]

/-- Capped words are found again if and only if each is kept apart from the next. -/
theorem cutAtStarts_flatten_iff {w : List Char} {ws : List (List Char)} (hw : IsCapped w)
    (hws : ∀ v ∈ ws, IsCapped v)
    (hcase : ∀ v ∈ ws, ∀ c ∈ v, isLower c = true → isUpper c = false) :
    cutAtStarts .boundary (w :: ws).flatten = w :: ws ↔ (w :: ws).IsChain KeptApart := by
  induction ws generalizing w with
  | nil =>
    have hcut : cutAtStarts .boundary (w ++ []) = [w] := cutAtStarts_append hw .boundary []
    rw [List.flatten_cons, List.flatten_nil, hcut]
    simp
  | cons v vs ih =>
    obtain ⟨hv, hvs⟩ := List.forall_mem_cons.mp hws
    have ih := ih hv hvs (List.forall_mem_cons.mp hcase).2
    match v with
    | [] => exact hv.elim
    | c :: l =>
      have hstart (h : ((c :: l) :: vs).IsChain KeptApart) :
          startsWord (Mode.boundary.over w) (c :: l ++ vs.flatten) = true ↔
            KeptApart w (c :: l) := by
        have hhead := head_flatten_not_isLower (List.forall_mem_cons.mp hcase).2 h
        rw [startsWord_append _ (by simp) hhead, startsWord_over_iff hw]
      rw [List.flatten_cons, cutAtStarts_append hw, List.flatten_cons, List.isChain_cons_cons]
      cases h : startsWord (Mode.boundary.over w) (c :: l ++ vs.flatten) with
      | true =>
        have hupper : isUpper c = true := (Bool.and_eq_true_iff.mp h).1
        have hafter := Mode.after_congr hupper (Mode.boundary.over w) .boundary
        rw [if_pos rfl, List.cons.injEq, List.cons_append, cutAtStarts_congr hafter,
          ← List.cons_append, ← List.flatten_cons, ih]
        constructor
        · rintro ⟨-, hchain⟩
          exact ⟨(hstart hchain).mp h, hchain⟩
        · rintro ⟨-, hchain⟩
          exact ⟨rfl, hchain⟩
      | false =>
        rw [if_neg (by simp)]
        constructor
        · intro heq
          obtain ⟨w', ws', hcut⟩ := exists_cutAtStarts (Mode.boundary.over w) c (l ++ vs.flatten)
          rw [List.cons_append, hcut, attach, List.cons.injEq] at heq
          simp at heq
        · rintro ⟨hkept, hchain⟩
          rw [(hstart hchain).mpr hkept] at h
          cases h

end RpcScaffold.Text
