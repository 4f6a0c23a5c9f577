import RpcScaffold.Proofs.Naming.Letters

/-!
# Which derived names are identifiers

Changing the case of a name drops every mark in front of its first letter or digit. A name in snake
case is an identifier if the declared name is ASCII and its first letter or digit is a letter.
-/

namespace RpcScaffold

open Text

/-! ## Identifiers by their characters -/

theorem isIdentRest_of_isIdentStart {c : Char} (h : isIdentStart c = true) :
    isIdentRest c = true := by
  simp only [isIdentStart, isIdentRest, Char.isAlphanum, Bool.or_eq_true] at h ⊢
  rcases h with halpha | hmark
  · exact .inl (.inl halpha)
  · exact .inr hmark

theorem isIdentRest_of_isAscii {c : Char} (hname : isNameChar c = true) (hc : isAscii c = true) :
    isIdentRest c = true := by
  simpa [isNameChar, isIdentRest, hc] using hname

theorem isAscii_of_isIdentRest {c : Char} (h : isIdentRest c = true) : isAscii c = true := by
  simp only [isIdentRest, Char.isAlphanum, Bool.or_eq_true, beq_iff_eq] at h
  simp only [isAscii, decide_eq_true_eq]
  change c.val.toNat < 128
  rcases h with (halpha | hdigit) | rfl
  · rcases Bool.or_eq_true_iff.mp halpha with hupper | hlower
    · have hle : c.val ≤ 90 := (of_decide_eq_true hupper).2
      exact Nat.lt_of_le_of_lt (UInt32.le_iff_toNat_le.mp hle) (by decide)
    · have hle : c.val ≤ 122 := of_decide_eq_true (Bool.and_eq_true_iff.mp hlower).2
      exact Nat.lt_of_le_of_lt (UInt32.le_iff_toNat_le.mp hle) (by decide)
  · have hle : c.val ≤ 57 := of_decide_eq_true (Bool.and_eq_true_iff.mp hdigit).2
    exact Nat.lt_of_le_of_lt (UInt32.le_iff_toNat_le.mp hle) (by decide)
  · decide

theorem isIdentifier_iff {s : String} : isIdentifier s = true ↔
    (∃ c, s.toList.head? = some c ∧ isIdentStart c = true) ∧
      ∀ c ∈ s.toList, isIdentRest c = true := by
  unfold isIdentifier
  cases s.toList with
  | nil => simp
  | cons c rest =>
    simp only [Bool.and_eq_true, List.all_eq_true, List.head?_cons, Option.some.injEq,
      exists_eq_left', List.forall_mem_cons]
    constructor
    · rintro ⟨hstart, hrest⟩
      exact ⟨hstart, isIdentRest_of_isIdentStart hstart, hrest⟩
    · rintro ⟨hstart, -, hrest⟩
      exact ⟨hstart, hrest⟩

theorem isAscii_of_isIdentifier {s : String} (h : isIdentifier s = true) :
    ∀ c ∈ s.toList, isAscii c = true :=
  fun c hc => isAscii_of_isIdentRest ((isIdentifier_iff.mp h).2 c hc)

/-- More text behind an identifier only has to be made of its characters. -/
theorem isIdentifier_append {s t : String} (hs : isIdentifier s = true) :
    isIdentifier (s ++ t) = true ↔ ∀ c ∈ t.toList, isIdentRest c = true := by
  obtain ⟨⟨c, hc, hstart⟩, hrest⟩ := isIdentifier_iff.mp hs
  rw [isIdentifier_iff, String.toList_append, List.forall_mem_append, List.head?_append, hc]
  constructor
  · rintro ⟨-, -, ht⟩
    exact ht
  · intro ht
    exact ⟨⟨c, rfl, hstart⟩, hrest, ht⟩

/-! ## The first word -/

theorem wordsFrom_boundary (c : Char) (rest : List Char) :
    ∃ w ws, wordsFrom .boundary (c :: rest) = (c :: w) :: ws := by
  cases rest with
  | nil => exact ⟨[], [], rfl⟩
  | cons d rest =>
    rw [wordsFrom]
    split_ifs with hlower hupper
    · exact ⟨[], _, rfl⟩
    · cases hupper.1
    · cases wordsFrom (Mode.boundary.after c) (d :: rest) with
      | nil => exact ⟨[], [], rfl⟩
      | cons w ws => exact ⟨w, ws, rfl⟩

/-- The first word starts with the first letter or digit. -/
theorem words_head {cs : List Char} {c : Char} (h : cs.find? isAlphanumeric = some c) :
    ∃ w ws, words cs = (c :: w) :: ws := by
  induction cs with
  | nil => cases h
  | cons d rest ih =>
    rw [words]
    cases hd : isAlphanumeric d with
    | true =>
      rw [List.find?_cons_of_pos hd] at h
      cases h
      obtain ⟨piece, pieces, hpieces⟩ := List.exists_cons_of_ne_nil
        (split_ne_nil (fun c => !isAlphanumeric c) rest)
      rw [split_cons_of_neg (by simp [hd]) hpieces, List.flatMap_cons]
      obtain ⟨w, ws, hws⟩ := wordsFrom_boundary c piece
      exact ⟨w, _, by rw [hws]; rfl⟩
    | false =>
      rw [List.find?_cons_of_neg (by simp [hd])] at h
      obtain ⟨w, ws, hws⟩ := ih h
      refine ⟨w, ws, ?_⟩
      rw [split_cons_of_pos (by simp [hd]), List.flatMap_cons]
      exact hws

theorem words_eq_nil {cs : List Char} (h : cs.find? isAlphanumeric = none) : words cs = [] := by
  induction cs with
  | nil => rfl
  | cons d rest ih =>
    rw [List.find?_eq_none, List.forall_mem_cons] at h
    rw [words, split_cons_of_pos (by simpa using h.1), List.flatMap_cons]
    exact ih (List.find?_eq_none.mpr h.2)

theorem words_ascii {cs : List Char} (h : ∀ c ∈ cs, isAscii c = true) :
    ∀ w ∈ words cs, ∀ c ∈ w, isAscii c = true :=
  fun _ hw c hc => h c (of_mem_words hw hc).1

/-! ## ASCII case -/

theorem isAscii_toLower {c : Char} (h : isAscii c = true) : isAscii c.toLower = true :=
  forall_ascii (P := fun c => isAscii c.toLower = true) (by decide) h

theorem isAscii_toUpper {c : Char} (h : isAscii c = true) : isAscii c.toUpper = true :=
  forall_ascii (P := fun c => isAscii c.toUpper = true) (by decide) h

theorem isIdentStart_toLower {c : Char} (h : isAscii c = true) (hc : isAlphanumeric c = true) :
    isIdentStart c.toLower = c.isAlpha :=
  forall_ascii (P := fun c => isAlphanumeric c = true → isIdentStart c.toLower = c.isAlpha)
    (by decide) h hc

theorem isIdentStart_toUpper {c : Char} (h : isAscii c = true) (hc : isAlphanumeric c = true) :
    isIdentStart c.toUpper = c.isAlpha :=
  forall_ascii (P := fun c => isAlphanumeric c = true → isIdentStart c.toUpper = c.isAlpha)
    (by decide) h hc

theorem lowerWord_ascii {w : List Char} (h : ∀ c ∈ w, isAscii c = true) :
    lowerWord w = w.map Char.toLower := by
  induction w using lowerWord.induct with
  | case1 => rfl
  | case2 => exact absurd (h 'Σ' (by simp)) (by decide)
  | case3 c rest hsigma ih =>
    rw [List.forall_mem_cons] at h
    rw [lowerWord, lowerForm, if_pos h.1, ih h.2]
    · rfl
    · exact hsigma

theorem capitalWord_ascii {c : Char} {w : List Char} (h : ∀ d ∈ c :: w, isAscii d = true) :
    capitalWord (c :: w) = c.toUpper :: w.map Char.toLower := by
  rw [List.forall_mem_cons] at h
  rw [capitalWord, upperForm, if_pos h.1, lowerWord_ascii h.2]
  rfl

/-! ## Snake case and camel case -/

/-- The first letter or digit of the name is a letter. -/
def startsWithLetter (name : String) : Bool := (name.toList.find? isAlphanumeric).any Char.isAlpha

section

variable {name : String} (hascii : ∀ c ∈ name.toList, isAscii c = true)
include hascii

theorem isIdentRest_snakeCase : ∀ c ∈ (snakeCase name).toList, isIdentRest c = true := by
  intro c hc
  apply isIdentRest_of_isAscii (isNamed_snakeCase name c hc)
  rw [snakeCase, String.toList_ofList] at hc
  rcases mem_join hc with hc | ⟨piece, hpiece, hc⟩
  · rw [List.mem_singleton.mp hc]
    decide
  · obtain ⟨w, hw, rfl⟩ := List.mem_map.mp hpiece
    have hwascii := words_ascii hascii w hw
    rw [lowerWord_ascii hwascii] at hc
    obtain ⟨d, hd, rfl⟩ := List.mem_map.mp hc
    exact isAscii_toLower (hwascii d hd)

theorem isIdentRest_upperCamel : ∀ c ∈ (upperCamel name).toList, isIdentRest c = true := by
  intro c hc
  apply isIdentRest_of_isAscii (isNamed_upperCamel name c hc)
  rw [upperCamel, String.toList_ofList] at hc
  obtain ⟨w, hw, hc⟩ := List.mem_flatMap.mp hc
  have hwascii := words_ascii hascii w hw
  cases w with
  | nil => simp [capitalWord] at hc
  | cons d w =>
    rw [capitalWord_ascii hwascii] at hc
    rcases List.mem_cons.mp hc with rfl | hc
    · exact isAscii_toUpper (hwascii d (by simp))
    · obtain ⟨e, he, rfl⟩ := List.mem_map.mp hc
      exact isAscii_toLower (hwascii e (by simp [he]))

theorem head?_snakeCase : (snakeCase name).toList.head? =
    (name.toList.find? isAlphanumeric).map Char.toLower := by
  rw [snakeCase, String.toList_ofList]
  cases hfirst : name.toList.find? isAlphanumeric with
  | none =>
    rw [words_eq_nil hfirst]
    rfl
  | some c =>
    obtain ⟨w, ws, hws⟩ := words_head hfirst
    have hword : lowerWord (c :: w) = c.toLower :: w.map Char.toLower :=
      lowerWord_ascii (words_ascii hascii _ (by simp [hws]))
    rw [hws, List.map_cons, hword]
    cases ws with
    | nil => simp [join]
    | cons v ws => simp [join, List.intercalate_cons_cons]

theorem head?_upperCamel : (upperCamel name).toList.head? =
    (name.toList.find? isAlphanumeric).map Char.toUpper := by
  rw [upperCamel, String.toList_ofList]
  cases hfirst : name.toList.find? isAlphanumeric with
  | none =>
    rw [words_eq_nil hfirst]
    rfl
  | some c =>
    obtain ⟨w, ws, hws⟩ := words_head hfirst
    have hword : capitalWord (c :: w) = c.toUpper :: w.map Char.toLower :=
      capitalWord_ascii (words_ascii hascii _ (by simp [hws]))
    rw [hws, List.flatMap_cons, hword]
    rfl

/-- A form of the name is an identifier if its first character may start one. -/
theorem isIdentifier_form {form : String} {change : Char → Char}
    (hrest : ∀ c ∈ form.toList, isIdentRest c = true)
    (hhead : form.toList.head? = (name.toList.find? isAlphanumeric).map change)
    (hstart : ∀ {c : Char}, isAscii c = true → isAlphanumeric c = true →
      isIdentStart (change c) = c.isAlpha) :
    isIdentifier form = startsWithLetter name := by
  rw [Bool.eq_iff_iff, isIdentifier_iff, hhead, startsWithLetter]
  cases hfirst : name.toList.find? isAlphanumeric with
  | none => simp
  | some c =>
    have hc := hstart (hascii c (List.mem_of_find?_eq_some hfirst)) (List.find?_some hfirst)
    simp only [Option.map_some, Option.some.injEq, exists_eq_left', hc, Option.any_some]
    exact and_iff_left hrest

theorem isIdentifier_snakeCase : isIdentifier (snakeCase name) = startsWithLetter name :=
  isIdentifier_form hascii (isIdentRest_snakeCase hascii) (head?_snakeCase hascii)
    isIdentStart_toLower

theorem isIdentifier_upperCamel : isIdentifier (upperCamel name) = startsWithLetter name :=
  isIdentifier_form hascii (isIdentRest_upperCamel hascii) (head?_upperCamel hascii)
    isIdentStart_toUpper

end

/-! ## Raw identifiers -/

/-- Reserved words with a meaning in paths. They cannot be raw identifiers. -/
def pathWords : List String := ["self", "Self", "super", "crate"]

/-- The name may stand in code: an identifier that is not reserved, or a raw identifier. -/
def IsCodeName (name : String) : Prop :=
  (isIdentifier name = true ∧ name ∉ reservedWords) ∨
    ∃ word ∈ reservedWords, word ∉ pathWords ∧ name = "r#" ++ word

/-- The name may stand in code once it is escaped. -/
def IsMemberName (name : String) : Prop := isIdentifier name = true ∧ name ∉ pathWords

instance (name : String) : Decidable (IsCodeName name) := by
  unfold IsCodeName
  infer_instance

instance (name : String) : Decidable (IsMemberName name) := by
  unfold IsMemberName
  infer_instance

theorem isIdentifier_reserved : ∀ word ∈ reservedWords, isIdentifier word = true := by decide

theorem pathWords_subset : ∀ word ∈ pathWords, word ∈ reservedWords := by decide

theorem Text.IsNamed.hash_not_mem {name : String} (h : IsNamed name) : '#' ∉ name.toList :=
  fun hmem => absurd (h '#' hmem) (by decide)

theorem rawIdent_inj {a b : String} (ha : '#' ∉ a.toList) (hb : '#' ∉ b.toList)
    (h : rawIdent a = rawIdent b) : a = b := by
  have hraw : ∀ name : String, '#' ∈ ("r#" ++ name).toList := by simp
  unfold rawIdent at h
  split_ifs at h
  · rwa [String.append_right_inj] at h
  · exact absurd (h ▸ hraw a) hb
  · exact absurd (h ▸ hraw b) ha
  · exact h

theorem rawIdent_eq_iff {a b : String} (ha : IsNamed a) (hb : IsNamed b) :
    rawIdent a = rawIdent b ↔ a = b := by
  constructor
  · exact rawIdent_inj ha.hash_not_mem hb.hash_not_mem
  · rintro rfl
    rfl

theorem not_isIdentifier_raw (word : String) : isIdentifier ("r#" ++ word) = false := by
  rw [← Bool.not_eq_true, isIdentifier_iff]
  rintro ⟨-, hrest⟩
  exact absurd (hrest '#' (by simp)) (by decide)

/-- Escaping serves every reserved word but those of paths. -/
theorem isCodeName_rawIdent {name : String} (h : IsNamed name) :
    IsCodeName (rawIdent name) ↔ IsMemberName name := by
  unfold rawIdent IsCodeName IsMemberName
  split_ifs with hreserved
  · rw [List.contains_iff_mem] at hreserved
    rw [not_isIdentifier_raw]
    constructor
    · rintro (⟨hfalse, -⟩ | ⟨word, -, hword, heq⟩)
      · cases hfalse
      · rw [String.append_right_inj] at heq
        exact ⟨isIdentifier_reserved name hreserved, heq ▸ hword⟩
    · rintro ⟨-, hword⟩
      exact .inr ⟨name, hreserved, hword, rfl⟩
  · have hfree : name ∉ reservedWords := by simpa using hreserved
    constructor
    · rintro (⟨hid, -⟩ | ⟨word, -, -, rfl⟩)
      · exact ⟨hid, fun hpath => hfree (pathWords_subset name hpath)⟩
      · exact absurd (by simp) h.hash_not_mem
    · rintro ⟨hid, -⟩
      exact .inl ⟨hid, hfree⟩

end RpcScaffold
