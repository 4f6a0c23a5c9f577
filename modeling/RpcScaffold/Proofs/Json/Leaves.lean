import Mathlib.Tactic.IntervalCases
import RpcScaffold.Json.Printer
import RpcScaffold.Json.Reader

/-!
# Leaves are read back

The reader takes the text of a string or of a natural number for what it stands for, and stops where
it ends.
-/

namespace RpcScaffold.Json

open Reader

/-! ## Bytes -/

def utf8 (cs : List Char) : Bytes := cs.flatMap String.utf8EncodeChar

theorem utf8_cons (c : Char) (cs : List Char) :
    utf8 (c :: cs) = String.utf8EncodeChar c ++ utf8 cs :=
  List.flatMap_cons

theorem utf8_append (cs ds : List Char) : utf8 (cs ++ ds) = utf8 cs ++ utf8 ds :=
  List.flatMap_append

theorem fromUTF8?_utf8 (s : String) : String.fromUTF8? ⟨(utf8 s.toList).toArray⟩ = some s := by
  have hbytes : (⟨(utf8 s.toList).toArray⟩ : ByteArray) = s.toByteArray := by
    rw [← String.utf8Encode_toList, List.utf8Encode]
    apply ByteArray.ext
    rw [List.data_toByteArray, utf8]
  rw [hbytes, String.fromUTF8?, dif_pos s.isValidUTF8]
  rfl

theorem toNat_ascii (b : UInt8) : (ascii b).toNat = b.toNat := by
  have hlt := b.toNat_lt
  have hvalid : b.toNat.isValidChar := .inl (by omega)
  rw [ascii, Char.ofNat, dif_pos hvalid]
  rfl

theorem ascii_ne {b : UInt8} {c : Char} (h : b.toNat ≠ c.toNat) : ascii b ≠ c := by
  rintro rfl
  exact h (toNat_ascii b).symm

/-! ## Strings -/

/-- The bytes of a character above ASCII do not look like ASCII. -/
theorem le_of_mem_utf8EncodeChar {c : Char} (hc : 128 ≤ c.toNat) {b : UInt8}
    (hb : b ∈ String.utf8EncodeChar c) : 128 ≤ b.toNat := by
  rw [String.utf8EncodeChar] at hb
  simp only [Char.toNat] at hc
  split_ifs at hb
  · omega
  · simp only [List.mem_cons, List.not_mem_nil, or_false] at hb
    rcases hb with rfl | rfl <;> rw [UInt8.toNat_ofNat'] <;> omega
  · simp only [List.mem_cons, List.not_mem_nil, or_false] at hb
    rcases hb with rfl | rfl | rfl <;> rw [UInt8.toNat_ofNat'] <;> omega
  · simp only [List.mem_cons, List.not_mem_nil, or_false] at hb
    rcases hb with rfl | rfl | rfl | rfl <;> rw [UInt8.toNat_ofNat'] <;> omega

theorem utf8EncodeChar_ascii {c : Char} (hc : c.toNat < 128) :
    String.utf8EncodeChar c = [UInt8.ofNat c.toNat] := by
  rw [String.utf8EncodeChar]
  exact if_pos (by simp only [Char.toNat] at hc; omega)

/-- What stands for itself in a string. -/
def IsPlain (b : UInt8) : Prop := ascii b ≠ '"' ∧ ascii b ≠ '\\' ∧ ¬ b < 0x20

theorem stringBytes_plain {bs : Bytes} (h : ∀ b ∈ bs, IsPlain b) (acc s : Bytes) :
    stringBytes acc (bs ++ s) = stringBytes (bs.reverse ++ acc) s := by
  induction bs generalizing acc with
  | nil => rfl
  | cons b bs ih =>
    obtain ⟨hquote, hbackslash, hcontrol⟩ := h b List.mem_cons_self
    rw [List.cons_append, stringBytes, if_neg hquote, if_neg hbackslash, if_neg hcontrol,
      ih (fun b hb => h b (List.mem_cons_of_mem _ hb)), List.reverse_cons, List.append_assoc]
    rfl

theorem stringBytes_escape {c : Char} {s rest : Bytes} (h : escape s = .ok (c, rest))
    (acc : Bytes) :
    stringBytes acc (92 :: s) = stringBytes ((String.utf8EncodeChar c).reverse ++ acc) rest := by
  rw [stringBytes, if_neg (by decide), if_pos (by decide)]
  split
  · simp_all
  · simp_all

theorem isPlain_of_mem {c : Char} (hquote : c ≠ '"') (hbackslash : c ≠ '\\')
    (hcontrol : ¬ c.toNat < 0x20) {b : UInt8} (hb : b ∈ String.utf8EncodeChar c) : IsPlain b := by
  by_cases hc : c.toNat < 128
  · rw [utf8EncodeChar_ascii hc, List.mem_singleton] at hb
    have hnat : b.toNat = c.toNat := by
      rw [hb, UInt8.toNat_ofNat']
      omega
    have hascii : ascii b = c := Char.toNat_inj.mp ((toNat_ascii b).trans hnat)
    refine ⟨hascii ▸ hquote, hascii ▸ hbackslash, ?_⟩
    rw [UInt8.lt_iff_toNat_lt, hnat]
    exact hcontrol
  · have hb := le_of_mem_utf8EncodeChar (by omega) hb
    refine ⟨ascii_ne ?_, ascii_ne ?_, ?_⟩
    · change b.toNat ≠ 34
      omega
    · change b.toNat ≠ 92
      omega
    · rw [UInt8.lt_iff_toNat_lt]
      change ¬ b.toNat < 32
      omega

theorem hexByte_eq : ∀ n < 32, ∃ hi lo, utf8 (hexByte n) = [hi, lo] ∧
    hexValue? hi = some (n / 16) ∧ hexValue? lo = some (n % 16) := by
  intro n hn
  interval_cases n <;> exact ⟨_, _, rfl, rfl, rfl⟩

theorem escape_control {c : Char} (hc : c.toNat < 0x20) (s : Bytes) :
    escape (utf8 ('u' :: '0' :: '0' :: hexByte c.toNat) ++ s) = .ok (c, s) := by
  obtain ⟨hi, lo, hbytes, hhi, hlo⟩ := hexByte_eq c.toNat hc
  have hzero : hexValue? 48 = some 0 := rfl
  have hunit : hexUnit (48 :: 48 :: hi :: lo :: s) = .ok (c.toNat, s) := by
    have hvalue : ((0 * 16 + 0) * 16 + c.toNat / 16) * 16 + c.toNat % 16 = c.toNat := by omega
    simp only [hexUnit, hzero, hhi, hlo, hvalue]
  have hpoint : unicodeEscape (48 :: 48 :: hi :: lo :: s) = .ok (c.toNat, s) := by
    have htrailing : isTrailing c.toNat = false := by
      simp only [isTrailing, Bool.and_eq_false_iff, decide_eq_false_iff_not]
      omega
    have hleading : isLeading c.toNat = false := by
      simp only [isLeading, Bool.and_eq_false_iff, decide_eq_false_iff_not]
      omega
    simp [unicodeEscape, hunit, htrailing, hleading]
  have htext : utf8 ('u' :: '0' :: '0' :: hexByte c.toNat) ++ s =
      117 :: 48 :: 48 :: hi :: lo :: s := by
    rw [utf8_cons, utf8_cons, utf8_cons, hbytes]
    rfl
  have hletter : ascii 117 = 'u' := by decide
  simp only [htext, escape, hletter, hpoint, Char.ofNat_toNat]

theorem stringBytes_stringChar (c : Char) (acc s : Bytes) :
    stringBytes acc (utf8 (stringChar c) ++ s) =
      stringBytes ((String.utf8EncodeChar c).reverse ++ acc) s := by
  unfold stringChar
  split
  · exact stringBytes_escape rfl acc
  · exact stringBytes_escape rfl acc
  · exact stringBytes_escape rfl acc
  · exact stringBytes_escape rfl acc
  · exact stringBytes_escape rfl acc
  · exact stringBytes_escape rfl acc
  · exact stringBytes_escape rfl acc
  · next hquote hbackslash _ _ _ _ _ =>
    split_ifs with hcontrol
    · exact stringBytes_escape (escape_control hcontrol s) acc
    · have hplain : ∀ b ∈ utf8 [c], IsPlain b := by
        intro b hb
        rw [utf8_cons, utf8, List.flatMap_nil, List.append_nil] at hb
        exact isPlain_of_mem hquote hbackslash hcontrol hb
      rw [stringBytes_plain hplain, utf8_cons, utf8, List.flatMap_nil, List.append_nil]

theorem stringBytes_text (cs : List Char) (acc s : Bytes) :
    stringBytes acc (utf8 (cs.flatMap stringChar) ++ s) =
      stringBytes ((utf8 cs).reverse ++ acc) s := by
  induction cs generalizing acc with
  | nil => rfl
  | cons c cs ih =>
    rw [List.flatMap_cons, utf8_append, List.append_assoc, stringBytes_stringChar, ih, utf8_cons,
      List.reverse_append, List.append_assoc]

/-- What the reader makes of a string after its opening quote. -/
theorem stringBody_stringText (s : String) (rest : Bytes) :
    ∃ body, utf8 (stringText s) ++ rest = 34 :: body ∧ stringBody body = .ok (s, rest) := by
  refine ⟨utf8 (s.toList.flatMap stringChar) ++ 34 :: rest, ?_, ?_⟩
  · rw [stringText, utf8_append, utf8_cons, List.append_assoc]
    rfl
  · have hbytes : stringBytes [] (utf8 (s.toList.flatMap stringChar) ++ 34 :: rest) =
        .ok (utf8 s.toList, rest) := by
      rw [stringBytes_text, stringBytes, if_pos (by decide), List.append_nil, List.reverse_reverse]
    simp only [stringBody, hbytes, fromUTF8?_utf8]

/-! ## Numbers -/

/-- What comes next does not go on with a number. -/
def EndsNumber : Bytes → Prop
  | [] => True
  | b :: _ => isDigit b = false ∧ ascii b ≠ '.' ∧ isExponentMark b = false

theorem afterWhole_of_endsNumber {s : Bytes} (h : EndsNumber s) (n : Nat) :
    afterWhole true ⟨n, 0⟩ s = .ok (.nat n, s) := by
  cases s with
  | nil => rfl
  | cons b r =>
    obtain ⟨-, hpoint, hmark⟩ := h
    simp [afterWhole, hpoint, hmark]

/-- A digit is one byte, and the reader takes it for its value. -/
theorem utf8EncodeChar_digit {c : Char} (h : c.isDigit = true) : ∃ b,
    String.utf8EncodeChar c = [b] ∧ ascii b = c ∧ isDigit b = true ∧
      digitValue b = c.toNat - '0'.toNat := by
  have hle : c.toNat ≤ 57 := (Char.isDigit_iff_toNat.mp h).2
  have hnat : (UInt8.ofNat c.toNat).toNat = c.toNat := by
    rw [UInt8.toNat_ofNat']
    omega
  have hascii : ascii (UInt8.ofNat c.toNat) = c := Char.toNat_inj.mp ((toNat_ascii _).trans hnat)
  exact ⟨_, utf8EncodeChar_ascii (by omega), hascii, by rw [isDigit, hascii, h],
    by rw [digitValue, hnat]⟩

theorem span_digits {cs : List Char} (hcs : ∀ c ∈ cs, c.isDigit = true) {s : Bytes}
    (hs : EndsNumber s) :
    (utf8 cs ++ s).takeWhile isDigit = utf8 cs ∧ (utf8 cs ++ s).dropWhile isDigit = s := by
  have hall : ∀ b ∈ utf8 cs, isDigit b = true := by
    intro b hb
    obtain ⟨c, hc, hb⟩ := List.mem_flatMap.mp hb
    obtain ⟨d, hbytes, -, hd, -⟩ := utf8EncodeChar_digit (hcs c hc)
    rw [hbytes, List.mem_singleton] at hb
    rwa [hb]
  rw [List.takeWhile_append_of_pos hall, List.dropWhile_append_of_pos hall]
  cases s with
  | nil => simp
  | cons b r => simp [hs.1]

theorem le_ofDigitChars (cs : List Char) (n : Nat) : n ≤ Nat.ofDigitChars 10 cs n := by
  induction cs generalizing n with
  | nil => exact Nat.le_refl n
  | cons c cs ih =>
    rw [Nat.ofDigitChars_cons]
    exact Nat.le_trans (by omega) (ih _)

/-- No digit is dropped as long as the number fits a word. -/
theorem read_digits {cs : List Char} (hcs : ∀ c ∈ cs, c.isDigit = true) {n : Nat}
    (hn : Nat.ofDigitChars 10 cs n < 2 ^ 64) :
    Significand.read n (utf8 cs) = ⟨Nat.ofDigitChars 10 cs n, 0⟩ := by
  rw [Significand.read]
  induction cs generalizing n with
  | nil => rfl
  | cons c cs ih =>
    rw [List.forall_mem_cons] at hcs
    rw [Nat.ofDigitChars_cons] at hn ⊢
    obtain ⟨b, hbytes, -, -, hvalue⟩ := utf8EncodeChar_digit hcs.1
    have hnext := Nat.lt_of_le_of_lt (le_ofDigitChars cs _) hn
    have hpush : Significand.push ⟨n, 0⟩ b = ⟨10 * n + (c.toNat - '0'.toNat), 0⟩ := by
      rw [Significand.push, hvalue, Nat.mul_comm]
      exact if_pos ⟨rfl, hnext⟩
    rw [utf8_cons, hbytes, List.singleton_append, List.foldl_cons, hpush, ih hcs.2 hn]

theorem isDigit_of_mem_toDigits {n : Nat} {c : Char} (h : c ∈ Nat.toDigits 10 n) :
    c.isDigit = true :=
  Nat.isDigit_of_mem_toDigits (by decide) (by decide) h

/-- The digits of a number start with a zero only if it is zero. -/
theorem exists_toDigits (n : Nat) : ∃ c cs, Nat.toDigits 10 n = c :: cs ∧ (c = '0' → n = 0) := by
  induction n using Nat.strongRecOn with
  | ind n ih =>
    by_cases hn : n < 10
    · refine ⟨n.digitChar, [], Nat.toDigits_of_lt_base hn, ?_⟩
      interval_cases n <;> decide
    · obtain ⟨c, cs, hdigits, hzero⟩ := ih (n / 10) (by omega)
      rw [Nat.toDigits_of_base_le (by decide) (by omega), hdigits]
      exact ⟨c, cs ++ [(n % 10).digitChar], rfl, fun hc => by have := hzero hc; omega⟩

theorem exists_utf8_toDigits (n : Nat) :
    ∃ b bs, utf8 (Nat.toDigits 10 n) = b :: bs ∧ isDigit b = true := by
  obtain ⟨c, cs, hdigits, -⟩ := exists_toDigits n
  obtain ⟨b, hbytes, -, hb, -⟩ :=
    utf8EncodeChar_digit (isDigit_of_mem_toDigits (hdigits ▸ List.mem_cons_self))
  exact ⟨b, utf8 cs, by rw [hdigits, utf8_cons, hbytes]; rfl, hb⟩

theorem number_toDigits {n : Nat} (hn : n < 2 ^ 64) {s : Bytes} (hs : EndsNumber s) :
    Reader.number true (utf8 (Nat.toDigits 10 n) ++ s) = .ok (.nat n, s) := by
  obtain ⟨c, cs, hdigits, hzero⟩ := exists_toDigits n
  have hall : ∀ d ∈ c :: cs, d.isDigit = true :=
    fun d hd => isDigit_of_mem_toDigits (hdigits ▸ hd)
  rw [List.forall_mem_cons] at hall
  obtain ⟨b, hbytes, hb, hdigit, hvalue⟩ := utf8EncodeChar_digit hall.1
  by_cases hc : c = '0'
  · have hn0 := hzero hc
    subst hn0
    cases s with
    | nil => rfl
    | cons d r =>
      have hafter := afterWhole_of_endsNumber hs 0
      change Reader.number true (48 :: d :: r) = _
      simp only [Reader.number, show ascii 48 = '0' by decide, hs.1, if_true, hafter]
      rfl
  · have hne : ascii b ≠ '0' := hb ▸ hc
    obtain ⟨htake, hdrop⟩ := span_digits hall.2 hs
    have hwhole : Nat.ofDigitChars 10 cs (c.toNat - '0'.toNat) = n := by
      rw [← Nat.ofDigitChars_ten_toDigits (n := n), hdigits, Nat.ofDigitChars_cons]
      simp
    have hread : Significand.read (digitValue b) (utf8 cs) = ⟨n, 0⟩ := by
      rw [hvalue, read_digits hall.2 (hwhole.symm ▸ hn), hwhole]
    rw [hdigits, utf8_cons, hbytes, List.singleton_append, List.cons_append]
    simp only [Reader.number, hne, hdigit, htake, hdrop, hread, afterWhole_of_endsNumber hs,
      if_true, if_false]

end RpcScaffold.Json
