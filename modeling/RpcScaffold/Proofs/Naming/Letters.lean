import RpcScaffold.Proofs.Naming.Words

/-! # Letters and digits in derived names -/

namespace RpcScaffold.Text

/-- Every ASCII character of a derived name is a letter, a digit or an underscore. -/
def isNameChar (c : Char) : Bool := !isAscii c || c.isAlphanum || c == '_'

/-! ## The tables -/

/-- Every image is a name character. Images of more than one code point lie beyond ASCII and on one
side of the surrogates. -/
def Shift.Named (s : Shift) : Prop :=
  let first := (Int.ofNat s.span.first + s.offset).toNat
  let last := (Int.ofNat s.span.last + s.offset).toNat
  (0x80 ≤ first ∧ last < 0xD800) ∨ (0xDFFF < first ∧ last < 0x110000) ∨
    (s.span.first = s.span.last ∧ isNameChar (Char.ofNat first) = true)

instance (s : Shift) : Decidable s.Named := by
  unfold Shift.Named
  infer_instance

theorem upperShifts_named : ∀ s ∈ Table.upperShifts, s.Named := by decide +kernel

theorem lowerShifts_named : ∀ s ∈ Table.lowerShifts, s.Named := by decide +kernel

theorem upperExpansions_named :
    ∀ e ∈ Table.upperExpansions, ∀ n ∈ e.2, isNameChar (Char.ofNat n) = true := by decide

theorem lowerExpansions_named :
    ∀ e ∈ Table.lowerExpansions, ∀ n ∈ e.2, isNameChar (Char.ofNat n) = true := by decide

/-! ## Case forms -/

theorem isNameChar_ofNat {n : Nat} (hn : 0x80 ≤ n) (hvalid : n.isValidChar) :
    isNameChar (Char.ofNat n) = true := by
  have htoNat : (Char.ofNat n).toNat = n := by
    rw [Char.ofNat, dif_pos hvalid]
    rfl
  have hascii : isAscii (Char.ofNat n) = false := by
    simp only [isAscii, htoNat, decide_eq_false_iff_not]
    omega
  simp [isNameChar, hascii]

theorem Shift.Named.image {s : Shift} (h : s.Named) {n : Nat} (hn : s.span.has n = true) :
    isNameChar (Char.ofNat (Int.ofNat n + s.offset).toNat) = true := by
  simp only [Span.has, Bool.and_eq_true, decide_eq_true_eq] at hn
  obtain ⟨⟨hfirst, hlast⟩, -⟩ := hn
  simp only [Shift.Named, Int.ofNat_eq_natCast] at h ⊢
  rcases h with ⟨hlo, hhi⟩ | ⟨hlo, hhi⟩ | ⟨hone, himage⟩
  · exact isNameChar_ofNat (by omega) (.inl (by omega))
  · exact isNameChar_ofNat (by omega) (.inr ⟨by omega, by omega⟩)
  · obtain rfl : n = s.span.first := by omega
    exact himage

theorem image?_named {shifts : List Shift} (h : ∀ s ∈ shifts, s.Named) {n k : Nat}
    (hk : Shift.image? shifts n = some k) : isNameChar (Char.ofNat k) = true := by
  rw [Shift.image?, Option.map_eq_some_iff] at hk
  obtain ⟨s, hs, rfl⟩ := hk
  exact (h s (List.mem_of_find?_eq_some hs)).image (by simpa using List.find?_some hs)

theorem caseForm_named {expansions : List (Nat × List Nat)} {shifts : List Shift}
    (he : ∀ e ∈ expansions, ∀ n ∈ e.2, isNameChar (Char.ofNat n) = true)
    (hs : ∀ s ∈ shifts, s.Named) {c d : Char} (hc : isNameChar c = true)
    (hd : d ∈ caseForm expansions shifts c) : isNameChar d = true := by
  unfold caseForm at hd
  cases hlookup : expansions.lookup c.toNat with
  | some form =>
    rw [hlookup] at hd
    obtain ⟨n, hn, rfl⟩ := List.mem_map.mp hd
    obtain ⟨l₁, l₂, heq, -⟩ := List.lookup_eq_some_iff.mp hlookup
    exact he (c.toNat, form) (by simp [heq]) n hn
  | none =>
    rw [hlookup] at hd
    rw [List.mem_singleton.mp hd]
    cases himage : Shift.image? shifts c.toNat with
    | none => exact hc
    | some k => exact image?_named hs himage

theorem isNameChar_of_isAlphanumeric {c : Char} (h : isAlphanumeric c = true) :
    isNameChar c = true := by
  unfold isAlphanumeric at h
  split_ifs at h with hascii
  · simp [isNameChar, h]
  · simp [isNameChar, hascii]

theorem forall_ascii {P : Char → Prop} (h : ∀ n < 0x80, P (Char.ofNat n)) {c : Char}
    (hc : isAscii c = true) : P c := by
  have hlt : c.toNat < 0x80 := by simpa [isAscii] using hc
  have hP := h c.toNat hlt
  rwa [Char.ofNat_toNat] at hP

theorem isNameChar_toLower {c : Char} (hascii : isAscii c = true) (hc : isNameChar c = true) :
    isNameChar c.toLower = true :=
  forall_ascii (P := fun c => isNameChar c = true → isNameChar c.toLower = true)
    (by decide) hascii hc

theorem isNameChar_toUpper {c : Char} (hascii : isAscii c = true) (hc : isNameChar c = true) :
    isNameChar c.toUpper = true :=
  forall_ascii (P := fun c => isNameChar c = true → isNameChar c.toUpper = true)
    (by decide) hascii hc

theorem lowerForm_named {c d : Char} (hc : isNameChar c = true) (hd : d ∈ lowerForm c) :
    isNameChar d = true := by
  unfold lowerForm at hd
  split_ifs at hd with hascii
  · rw [List.mem_singleton.mp hd]
    exact isNameChar_toLower hascii hc
  · exact caseForm_named lowerExpansions_named lowerShifts_named hc hd

theorem upperForm_named {c d : Char} (hc : isNameChar c = true) (hd : d ∈ upperForm c) :
    isNameChar d = true := by
  unfold upperForm at hd
  split_ifs at hd with hascii
  · rw [List.mem_singleton.mp hd]
    exact isNameChar_toUpper hascii hc
  · exact caseForm_named upperExpansions_named upperShifts_named hc hd

/-! ## Names -/

/-- Text made of name characters. -/
def IsNamed (s : String) : Prop := ∀ c ∈ s.toList, isNameChar c = true

theorem IsNamed.append {s t : String} (hs : IsNamed s) (ht : IsNamed t) : IsNamed (s ++ t) := by
  intro c hc
  rw [String.toList_append, List.mem_append] at hc
  rcases hc with hc | hc
  · exact hs c hc
  · exact ht c hc

theorem isNamed_of_isIdentifier {s : String} (h : isIdentifier s = true) : IsNamed s := by
  have hrest : ∀ c, isIdentRest c = true → isNameChar c = true := by
    intro c hc
    simp only [isIdentRest, isNameChar, Bool.or_eq_true] at hc ⊢
    rcases hc with halnum | hmark
    · exact .inl (.inr halnum)
    · exact .inr hmark
  have hstart : ∀ c, isIdentStart c = true → isNameChar c = true := by
    intro c hc
    apply hrest
    simp only [isIdentStart, isIdentRest, Char.isAlphanum, Bool.or_eq_true] at hc ⊢
    rcases hc with halpha | hmark
    · exact .inl (.inl halpha)
    · exact .inr hmark
  unfold isIdentifier at h
  unfold IsNamed
  split at h
  · next hnil => simp [hnil]
  · next c rest hcons =>
    rw [Bool.and_eq_true, List.all_eq_true] at h
    rw [hcons, List.forall_mem_cons]
    exact ⟨hstart c h.1, fun d hd => hrest d (h.2 d hd)⟩

theorem words_named {cs w : List Char} (hw : w ∈ words cs) {c : Char} (hc : c ∈ w) :
    isNameChar c = true :=
  isNameChar_of_isAlphanumeric (of_mem_words hw hc).2

theorem lowerWord_named {w : List Char} (h : ∀ c ∈ w, isNameChar c = true) :
    ∀ d ∈ lowerWord w, isNameChar d = true := by
  induction w using lowerWord.induct with
  | case1 => simp [lowerWord]
  | case2 =>
    simp only [lowerWord, List.mem_singleton, forall_eq]
    decide
  | case3 c rest hsigma ih =>
    rw [List.forall_mem_cons] at h
    rw [lowerWord]
    · intro d hd
      rcases List.mem_append.mp hd with hd | hd
      · exact lowerForm_named h.1 hd
      · exact ih h.2 d hd
    · exact hsigma

theorem capitalWord_named {w : List Char} (h : ∀ c ∈ w, isNameChar c = true) :
    ∀ d ∈ capitalWord w, isNameChar d = true := by
  cases w with
  | nil => simp [capitalWord]
  | cons c rest =>
    rw [List.forall_mem_cons] at h
    intro d hd
    rcases List.mem_append.mp hd with hd | hd
    · exact upperForm_named h.1 hd
    · exact lowerWord_named h.2 d hd

theorem mem_join {glue : List Char} {pieces : List (List Char)} {c : Char}
    (hc : c ∈ join glue pieces) : c ∈ glue ∨ ∃ piece ∈ pieces, c ∈ piece := by
  induction pieces with
  | nil => simp [join] at hc
  | cons first others ih =>
    cases others with
    | nil => exact .inr ⟨first, by simp, by simpa [join] using hc⟩
    | cons second others =>
      rw [join, List.intercalate_cons_cons, List.mem_append, List.mem_append] at hc
      rcases hc with (hc | hc) | hc
      · exact .inr ⟨first, by simp, hc⟩
      · exact .inl hc
      · rcases ih hc with hc | ⟨piece, hpiece, hc⟩
        · exact .inl hc
        · exact .inr ⟨piece, List.mem_cons_of_mem _ hpiece, hc⟩

theorem isNamed_snakeCase (name : String) : IsNamed (snakeCase name) := by
  intro c hc
  rw [snakeCase, String.toList_ofList] at hc
  rcases mem_join hc with hc | ⟨piece, hpiece, hc⟩
  · rw [List.mem_singleton.mp hc]
    decide
  · obtain ⟨w, hw, rfl⟩ := List.mem_map.mp hpiece
    exact lowerWord_named (fun d hd => words_named hw hd) c hc

theorem isNamed_upperCamel (name : String) : IsNamed (upperCamel name) := by
  intro c hc
  rw [upperCamel, String.toList_ofList] at hc
  obtain ⟨w, hw, hc⟩ := List.mem_flatMap.mp hc
  exact capitalWord_named (fun d hd => words_named hw hd) c hc

end RpcScaffold.Text
