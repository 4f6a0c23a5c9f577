import Mathlib.Tactic.MkIffOfInductiveProp
import RpcScaffold.Proofs.Naming.Identifiers
import RpcScaffold.Proofs.Naming.Starts

/-!
# Names that change their case twice

Code generated from a schema puts the names of the schema into its own case. A name in snake case
stays as it is. A name in camel case may not: its words are found again only where its capitals tell
where they start.
-/

namespace RpcScaffold.Text

/-! ## Case forms -/

/-- The lower-case form of `c` is the letter or digit `l`, which is its own lower-case form. -/
@[mk_iff] structure LowersTo (c l : Char) : Prop where
  lower : lowerForm c = [l]
  lower_lower : lowerForm l = [l]
  alnum : isAlphanumeric l = true
  not_upper : isUpper l = false

/-- The forms of `c`, and of each other, are `l` and `u`. A capital sigma is not regular, because
its form at the end of a word is another one. -/
@[mk_iff] structure CaseForms (c l u : Char) : Prop where
  lower : LowersTo c l
  upper : upperForm c = [u]
  upper_lower : upperForm l = [u]
  upper_upper : upperForm u = [u]
  lower_upper : lowerForm u = [l]
  alnum : isAlphanumeric u = true
  cased : isUpper u = true ∧ isLower u = false ∨ u = l
  ne_sigma : u ≠ 'Σ'

def IsLowerable (c : Char) : Prop := ∃ l, LowersTo c l

def IsRegular (c : Char) : Prop := ∃ l u, CaseForms c l u

instance (c l : Char) : Decidable (LowersTo c l) := decidable_of_iff' _ (lowersTo_iff c l)

instance (c l u : Char) : Decidable (CaseForms c l u) := decidable_of_iff' _ (caseForms_iff c l u)

theorem isRegular_of_isAscii {c : Char} (h : isAscii c = true) (hc : isAlphanumeric c = true) :
    IsRegular c :=
  ⟨c.toLower, c.toUpper, forall_ascii (P := fun c => isAlphanumeric c = true →
    CaseForms c c.toLower c.toUpper) (by decide) h hc⟩

theorem IsRegular.isLowerable {c : Char} (h : IsRegular c) : IsLowerable c := by
  obtain ⟨l, u, hforms⟩ := h
  exact ⟨l, hforms.lower⟩

theorem LowersTo.ne_sigma {c : Char} (h : LowersTo c c) : c ≠ 'Σ' := by
  rintro rfl
  exact absurd h.not_upper (by decide +kernel)

theorem CaseForms.source_ne_sigma {c l u : Char} (h : CaseForms c l u) : c ≠ 'Σ' := by
  rintro rfl
  have hupper : upperForm 'Σ' = ['Σ'] := by decide +kernel
  rw [h.upper] at hupper
  exact h.ne_sigma (List.cons.inj hupper).1

theorem LowersTo.self {c l : Char} (h : LowersTo c l) : LowersTo l l :=
  ⟨h.lower_lower, h.lower_lower, h.alnum, h.not_upper⟩

/-- The upper-case form has the same forms. -/
theorem CaseForms.of_upper {c l u : Char} (h : CaseForms c l u) : CaseForms u l u :=
  ⟨⟨h.lower_upper, h.lower.lower_lower, h.lower.alnum, h.lower.not_upper⟩, h.upper_upper,
    h.upper_lower, h.upper_upper, h.lower_upper, h.alnum, h.cased, h.ne_sigma⟩

/-! ## Words in lower case -/

theorem wordsFrom_of_not_upper {w : List Char} (hne : w ≠ []) (h : ∀ c ∈ w, isUpper c = false) :
    wordsFrom .boundary w = [w] := by
  have hcapped : IsCapped w := by
    cases w with
    | nil => exact hne rfl
    | cons c l => exact fun d hd => h d (List.mem_cons_of_mem _ hd)
  have hcut := cutAtStarts_append hcapped .boundary []
  rw [List.append_nil] at hcut
  rw [wordsFrom_eq_cutAtStarts fun c hc _ => h c hc, hcut]
  rfl

theorem lowerWord_of_ne_sigma {w : List Char} (h : ∀ c ∈ w, c ≠ 'Σ') :
    lowerWord w = w.flatMap lowerForm := by
  induction w using lowerWord.induct with
  | case1 => rfl
  | case2 => exact absurd rfl (h 'Σ' (by simp))
  | case3 c rest hsigma ih =>
    rw [lowerWord, ih (List.forall_mem_cons.mp h).2, List.flatMap_cons]
    exact hsigma

theorem lowerWord_eq_self {w : List Char} (h : ∀ c ∈ w, LowersTo c c) : lowerWord w = w := by
  rw [lowerWord_of_ne_sigma fun c hc => (h c hc).ne_sigma]
  induction w with
  | nil => rfl
  | cons c rest ih =>
    rw [List.forall_mem_cons] at h
    rw [List.flatMap_cons, h.1.lower, ih h.2]
    rfl

theorem lowerWord_settled {w : List Char} (h : ∀ c ∈ w, IsLowerable c) :
    ∀ c ∈ lowerWord w, LowersTo c c := by
  induction w using lowerWord.induct with
  | case1 => simp [lowerWord]
  | case2 =>
    rw [lowerWord, List.forall_mem_singleton]
    decide +kernel
  | case3 c rest hsigma ih =>
    obtain ⟨⟨l, hl⟩, hrest⟩ := List.forall_mem_cons.mp h
    rw [lowerWord, hl.lower, List.singleton_append, List.forall_mem_cons]
    · exact ⟨hl.self, ih hrest⟩
    · exact hsigma

theorem length_lowerWord {w : List Char} (h : ∀ c ∈ w, IsLowerable c) :
    (lowerWord w).length = w.length := by
  induction w using lowerWord.induct with
  | case1 => rfl
  | case2 => rfl
  | case3 c rest hsigma ih =>
    obtain ⟨⟨l, hl⟩, hrest⟩ := List.forall_mem_cons.mp h
    rw [lowerWord, hl.lower, List.singleton_append, List.length_cons, List.length_cons, ih hrest]
    exact hsigma

/-! ## Snake case -/

/-- Words in lower case, joined by underscores. -/
structure AreJoinable (ws : List (List Char)) : Prop where
  ne_nil : ∀ w ∈ ws, w ≠ []
  settled : ∀ w ∈ ws, ∀ c ∈ w, LowersTo c c

theorem AreJoinable.split {ws : List (List Char)} (h : AreJoinable ws) (hne : ws ≠ []) :
    split (fun c => !isAlphanumeric c) (join ['_'] ws) = ws :=
  split_join_singleton (by decide) hne fun w hw c hc => by simp [(h.settled w hw c hc).alnum]

theorem AreJoinable.words {ws : List (List Char)} (h : AreJoinable ws) :
    words (join ['_'] ws) = ws := by
  by_cases hne : ws = []
  · subst hne
    rfl
  · have hone : ∀ w ∈ ws, wordsFrom .boundary w = [w] := fun w hw =>
      wordsFrom_of_not_upper (h.ne_nil w hw) fun c hc => (h.settled w hw c hc).not_upper
    rw [Text.words, h.split hne, List.flatMap_congr hone, List.flatMap_singleton']

theorem AreJoinable.inj {ws vs : List (List Char)} (hws : AreJoinable ws) (hvs : AreJoinable vs)
    (h : join ['_'] ws = join ['_'] vs) : ws = vs := by
  rw [← hws.words, h, hvs.words]

theorem AreJoinable.snakeCase {ws : List (List Char)} (h : AreJoinable ws) :
    snakeCase (String.ofList (join ['_'] ws)) = String.ofList (join ['_'] ws) := by
  have hlower : ws.map lowerWord = ws :=
    (List.map_congr_left fun w hw => lowerWord_eq_self (h.settled w hw)).trans (List.map_id ws)
  rw [Text.snakeCase, String.toList_ofList, h.words, hlower]

theorem areJoinable_lowerWords {cs : List Char}
    (h : ∀ c ∈ cs, isAlphanumeric c = true → IsLowerable c) :
    AreJoinable ((words cs).map lowerWord) := by
  have hwords : ∀ w ∈ words cs, ∀ c ∈ w, IsLowerable c := fun w hw c hc =>
    have hmem := of_mem_words hw hc
    h c hmem.1 hmem.2
  constructor
  · rw [List.forall_mem_map]
    intro w hw hnil
    have hlength := length_lowerWord (hwords w hw)
    rw [hnil] at hlength
    exact ne_nil_of_mem_words hw (List.length_eq_zero_iff.mp hlength.symm)
  · rw [List.forall_mem_map]
    exact fun w hw => lowerWord_settled (hwords w hw)

/-- A name in snake case is its own snake case. -/
theorem snakeCase_snakeCase {name : String}
    (h : ∀ c ∈ name.toList, isAlphanumeric c = true → IsLowerable c) :
    snakeCase (snakeCase name) = snakeCase name :=
  (areJoinable_lowerWords h).snakeCase

/-- One more word in front of a name in snake case. Without a name its underscore is lost. -/
theorem snakeCase_prefixed_iff {p : List Char} (hp : p ≠ []) (hlower : ∀ c ∈ p, LowersTo c c)
    {name : String} (h : ∀ c ∈ name.toList, isAlphanumeric c = true → IsLowerable c) :
    snakeCase (String.ofList (p ++ ['_']) ++ snakeCase name) =
        String.ofList (p ++ ['_']) ++ snakeCase name ↔
      ∃ c ∈ name.toList, isAlphanumeric c = true := by
  cases hfind : name.toList.find? isAlphanumeric with
  | none =>
    have hwords : words (p ++ ['_']) = [p] := by
      have hpiece : ∀ c ∈ p, (!isAlphanumeric c) = false := by
        intro c hc
        rw [(hlower c hc).alnum]
        rfl
      rw [words, split_append_cons hpiece (by decide), List.flatMap_cons,
        wordsFrom_of_not_upper hp fun c hc => (hlower c hc).not_upper]
      rfl
    have hname : snakeCase name = "" := by rw [snakeCase, words_eq_nil hfind]; rfl
    have hnone : ¬ ∃ c ∈ name.toList, isAlphanumeric c = true := by
      simpa [List.find?_eq_none] using hfind
    rw [hname, String.append_empty, snakeCase, String.toList_ofList, hwords, List.map_singleton,
      lowerWord_eq_self hlower, String.ofList_inj]
    simp [join, hnone]
  | some c =>
    obtain ⟨w, ws, hwords⟩ := words_head hfind
    have hjoinable := areJoinable_lowerWords h
    have hfront : AreJoinable (p :: (words name.toList).map lowerWord) :=
      ⟨List.forall_mem_cons.mpr ⟨hp, hjoinable.ne_nil⟩,
        List.forall_mem_cons.mpr ⟨hlower, hjoinable.settled⟩⟩
    have htext : String.ofList (p ++ ['_']) ++ snakeCase name =
        String.ofList (join ['_'] (p :: (words name.toList).map lowerWord)) := by
      rw [snakeCase, ← String.ofList_append, hwords, List.map_cons, join, join,
        List.intercalate_cons_cons]
    rw [htext]
    exact iff_of_true hfront.snakeCase
      ⟨c, List.mem_of_find?_eq_some hfind, List.find?_some hfind⟩

/-! ## Words in camel case -/

/-- All letters and digits of the name are regular. -/
def HasRegularLetters (name : String) : Prop :=
  ∀ c ∈ name.toList, isAlphanumeric c = true → IsRegular c

theorem hasRegularLetters_of_isAscii {name : String} (h : name.toList.all isAscii = true) :
    HasRegularLetters name :=
  fun c hc => isRegular_of_isAscii (List.all_eq_true.mp h c hc)

/-- A character in its lower-case form, or a capital that has one. -/
def IsCamelChar (c : Char) : Prop := LowersTo c c ∨ (isUpper c = true ∧ ∃ l, CaseForms c l c)

theorem IsCamelChar.isAlphanumeric {c : Char} (h : IsCamelChar c) : isAlphanumeric c = true := by
  rcases h with h | ⟨-, l, h⟩
  · exact h.alnum
  · exact h.alnum

theorem IsCamelChar.isLowerable {c : Char} (h : IsCamelChar c) : IsLowerable c := by
  rcases h with h | ⟨-, l, h⟩
  · exact ⟨c, h⟩
  · exact ⟨l, h.lower⟩

theorem IsCamelChar.not_upper_of_lower {c : Char} (h : IsCamelChar c) (hlower : isLower c = true) :
    isUpper c = false := by
  rcases h with h | ⟨hupper, l, h⟩
  · exact h.not_upper
  · rcases h.cased with ⟨-, hnot⟩ | rfl
    · rw [hlower] at hnot
      cases hnot
    · exact h.lower.not_upper

theorem CaseForms.isCamelChar {c l u : Char} (h : CaseForms c l u) : IsCamelChar u := by
  rcases h.cased with ⟨hupper, -⟩ | rfl
  · exact .inr ⟨hupper, l, h.of_upper⟩
  · exact .inl h.lower.self

section

variable {w : List Char} (hw : w ≠ []) (h : ∀ c ∈ w, IsRegular c)
include hw h

theorem exists_capitalWord : ∃ c l u rest, CaseForms c l u ∧ (∀ d ∈ rest, IsRegular d) ∧
    w = c :: rest ∧ capitalWord w = u :: lowerWord rest ∧ lowerWord w = l :: lowerWord rest := by
  cases w with
  | nil => exact (hw rfl).elim
  | cons c rest =>
    obtain ⟨⟨l, u, hforms⟩, hrest⟩ := List.forall_mem_cons.mp h
    refine ⟨c, l, u, rest, hforms, hrest, rfl, ?_, ?_⟩
    · rw [capitalWord, hforms.upper, List.singleton_append]
    · rw [lowerWord, hforms.lower.lower, List.singleton_append]
      exact fun hc _ => hforms.source_ne_sigma hc

theorem isCapped_capitalWord : IsCapped (capitalWord w) := by
  obtain ⟨c, l, u, rest, hforms, hrest, -, hcapital, -⟩ := exists_capitalWord hw h
  rw [hcapital]
  exact fun d hd => (lowerWord_settled (fun e he => (hrest e he).isLowerable) d hd).not_upper

theorem capitalWord_camel : ∀ c ∈ capitalWord w, IsCamelChar c := by
  obtain ⟨c, l, u, rest, hforms, hrest, -, hcapital, -⟩ := exists_capitalWord hw h
  rw [hcapital, List.forall_mem_cons]
  exact ⟨hforms.isCamelChar,
    fun d hd => .inl (lowerWord_settled (fun e he => (hrest e he).isLowerable) d hd)⟩

theorem lowerWord_capitalWord : lowerWord (capitalWord w) = lowerWord w := by
  obtain ⟨c, l, u, rest, hforms, hrest, -, hcapital, hlower⟩ := exists_capitalWord hw h
  have hsettled := lowerWord_settled fun e he => (hrest e he).isLowerable
  rw [hcapital, hlower, lowerWord, hforms.lower_upper, lowerWord_eq_self hsettled]
  · rfl
  · exact fun hu _ => hforms.ne_sigma hu

/-- A word in lower case is made a capital word again. -/
theorem capitalWord_lowerWord : capitalWord (lowerWord w) = capitalWord w := by
  obtain ⟨c, l, u, rest, hforms, hrest, -, hcapital, hlower⟩ := exists_capitalWord hw h
  have hsettled := lowerWord_settled fun e he => (hrest e he).isLowerable
  rw [hcapital, hlower, capitalWord, hforms.upper_lower, lowerWord_eq_self hsettled]
  rfl

end

/-! ## Camel case, then snake case -/

/-- The words of the name as camel case has them. -/
def capitalWords (name : String) : List (List Char) := (words name.toList).map capitalWord

theorem toList_upperCamel (name : String) :
    (upperCamel name).toList = (capitalWords name).flatten := by
  rw [upperCamel, String.toList_ofList, capitalWords, List.flatMap_def]

/-- Camel case keeps the words of the name apart. -/
def Survives (name : String) : Prop := (capitalWords name).IsChain KeptApart

instance : DecidablePred Survives := fun name => by
  unfold Survives
  infer_instance

theorem forms_of_isAlpha {c : Char} (h : c.isAlpha = true) :
    (∃ u, upperForm c = [u] ∧ isUpper u = true) ∧
      ∃ l, isLower l = true ∧ ∀ rest, lowerWord (c :: rest) = l :: lowerWord rest := by
  have hascii : isAscii c = true :=
    isAscii_of_isIdentRest (by simp [isIdentRest, Char.isAlphanum, h])
  have hforms := forall_ascii (P := fun c => c.isAlpha = true → upperForm c = [c.toUpper] ∧
    isUpper c.toUpper = true ∧ lowerForm c = [c.toLower] ∧ isLower c.toLower = true ∧ c ≠ 'Σ')
    (by decide) hascii h
  obtain ⟨hupper, hcapital, hlower, hsmall, hsigma⟩ := hforms
  refine ⟨⟨_, hupper, hcapital⟩, _, hsmall, fun rest => ?_⟩
  rw [lowerWord.eq_3 c rest fun hc _ => hsigma hc, hlower]
  rfl

/-- Words that start with two letters are kept apart. -/
theorem survives_of_isAlpha {name : String}
    (h : ∀ w ∈ words name.toList, 2 ≤ w.length ∧ (w.take 2).all Char.isAlpha = true) :
    Survives name := by
  have hcapital : ∀ w ∈ capitalWords name,
      w.head?.any isUpper = true ∧ w.any isLower = true := by
    rw [capitalWords, List.forall_mem_map]
    intro w hw
    obtain ⟨hlength, hletters⟩ := h w hw
    rw [List.all_eq_true] at hletters
    match w with
    | c :: d :: rest =>
      obtain ⟨u, hu, hupper⟩ := (forms_of_isAlpha (hletters c (by simp))).1
      obtain ⟨l, hl, hlower⟩ := (forms_of_isAlpha (hletters d (by simp))).2
      rw [capitalWord, hu, hlower]
      simp [hupper, hl]
  have hpairs : (capitalWords name).Pairwise KeptApart :=
    List.pairwise_of_forall_mem_list fun w hw v hv =>
      ⟨(hcapital v hv).1, .inl (hcapital w hw).2⟩
  exact hpairs.isChain

theorem words_of_isCamelChar {cs : List Char} (h : ∀ c ∈ cs, IsCamelChar c) :
    words cs = cutAtStarts .boundary cs := by
  rw [words, split_of_forall_neg fun c hc => by simp [(h c hc).isAlphanumeric], List.flatMap_cons,
    List.flatMap_nil, List.append_nil, wordsFrom_eq_cutAtStarts]
  exact fun c hc => (h c hc).not_upper_of_lower

section

variable {name : String} (h : HasRegularLetters name)
include h

theorem isRegular_of_mem_words {w : List Char} (hw : w ∈ words name.toList) :
    ∀ c ∈ w, IsRegular c := fun c hc =>
  have hmem := of_mem_words hw hc
  h c hmem.1 hmem.2

theorem isCapped_capitalWords : ∀ w ∈ capitalWords name, IsCapped w := by
  rw [capitalWords, List.forall_mem_map]
  exact fun w hw => isCapped_capitalWord (ne_nil_of_mem_words hw) (isRegular_of_mem_words h hw)

theorem isCamelChar_upperCamel : ∀ c ∈ (upperCamel name).toList, IsCamelChar c := by
  intro c hc
  rw [toList_upperCamel, List.mem_flatten] at hc
  obtain ⟨w', hw', hc⟩ := hc
  obtain ⟨w, hw, rfl⟩ := List.mem_map.mp hw'
  exact capitalWord_camel (ne_nil_of_mem_words hw) (isRegular_of_mem_words h hw) c hc

theorem map_lowerWord_capitalWords :
    (capitalWords name).map lowerWord = (words name.toList).map lowerWord := by
  rw [capitalWords, List.map_map]
  exact List.map_congr_left fun w hw =>
    lowerWord_capitalWord (ne_nil_of_mem_words hw) (isRegular_of_mem_words h hw)

theorem areJoinable_of_regular : AreJoinable ((words name.toList).map lowerWord) :=
  areJoinable_lowerWords fun c hc halnum => (h c hc halnum).isLowerable

theorem words_upperCamel_iff :
    words (upperCamel name).toList = capitalWords name ↔ Survives name := by
  have hcapped := isCapped_capitalWords h
  have hcase : ∀ c ∈ (capitalWords name).flatten, isLower c = true → isUpper c = false := by
    rw [← toList_upperCamel]
    exact fun c hc => (isCamelChar_upperCamel h c hc).not_upper_of_lower
  rw [words_of_isCamelChar (isCamelChar_upperCamel h), Survives, toList_upperCamel]
  cases hwords : capitalWords name with
  | nil => simp [cutAtStarts]
  | cons w ws =>
    rw [hwords] at hcapped hcase
    obtain ⟨hw, hws⟩ := List.forall_mem_cons.mp hcapped
    exact cutAtStarts_flatten_iff hw hws fun v hv c hc =>
      hcase c (List.mem_flatten.mpr ⟨v, List.mem_cons_of_mem w hv, hc⟩)

/-- A name has one snake case, whether or not it was in camel case in between, if and only if camel
case keeps its words apart. -/
theorem snakeCase_upperCamel_iff :
    snakeCase (upperCamel name) = snakeCase name ↔ Survives name := by
  have hcamel := isCamelChar_upperCamel h
  have hlowerable : ∀ c ∈ (upperCamel name).toList, IsLowerable c :=
    fun c hc => (hcamel c hc).isLowerable
  have hlength : ∀ ws : List (List Char), ws.flatten = (upperCamel name).toList →
      (ws.map lowerWord).map List.length = ws.map List.length := by
    intro ws hflatten
    rw [List.map_map]
    refine List.map_congr_left fun w hw => length_lowerWord fun c hc => hlowerable c ?_
    rw [← hflatten]
    exact List.mem_flatten.mpr ⟨w, hw, hc⟩
  rw [← words_upperCamel_iff h]
  constructor
  · intro heq
    have hjoin := (areJoinable_lowerWords fun c hc _ => hlowerable c hc).inj
      (areJoinable_of_regular h) (String.ofList_injective heq)
    have hflatten : (words (upperCamel name).toList).flatten = (upperCamel name).toList := by
      rw [words_of_isCamelChar hcamel, cutAtStarts_flatten]
    refine List.eq_iff_flatten_eq.mpr ⟨hflatten.trans (toList_upperCamel name), ?_⟩
    rw [← hlength _ hflatten, ← hlength _ (toList_upperCamel name).symm, hjoin,
      map_lowerWord_capitalWords h]
  · intro heq
    rw [snakeCase, heq, map_lowerWord_capitalWords h]
    rfl

end

/-- Names with one snake case have one camel case. -/
theorem upperCamel_eq_of_snakeCase_eq {name other : String} (h : HasRegularLetters name)
    (h' : HasRegularLetters other) (heq : snakeCase name = snakeCase other) :
    upperCamel name = upperCamel other := by
  have hback : ∀ {name : String}, HasRegularLetters name →
      ((words name.toList).map lowerWord).map capitalWord = capitalWords name := by
    intro name h
    rw [List.map_map]
    exact List.map_congr_left fun w hw =>
      capitalWord_lowerWord (ne_nil_of_mem_words hw) (isRegular_of_mem_words h hw)
  have hjoin := (areJoinable_of_regular h).inj (areJoinable_of_regular h')
    (String.ofList_injective heq)
  rw [← String.toList_inj, toList_upperCamel, toList_upperCamel, ← hback h, hjoin, hback h']

/-! ## Camel case twice -/

theorem IsCamelChar.ne_sigma {c : Char} (h : IsCamelChar c) : c ≠ 'Σ' := by
  rcases h with h | ⟨-, l, h⟩
  · exact h.ne_sigma
  · exact h.ne_sigma

/-- What is behind the first character is cased as it was if and only if its capitals start words.
The case of the first character itself is not looked at. -/
theorem recased_iff {m : Mode} {c : Char} {rest w : List Char} {ws : List (List Char)}
    (h : ∀ d ∈ rest, IsCamelChar d) (hcut : cutAtStarts m (c :: rest) = (c :: w) :: ws) :
    lowerWord w ++ ws.flatMap capitalWord = rest ↔ CapitalsStart (m.after c) rest := by
  induction rest generalizing m c w ws with
  | nil =>
    cases hcut
    simp [lowerWord, capitalsStart_nil]
  | cons d rest ih =>
    obtain ⟨hd, hrest⟩ := List.forall_mem_cons.mp h
    obtain ⟨w', ws', hcut'⟩ := exists_cutAtStarts (m.after c) d rest
    cases hstart : startsWord (m.after c) (d :: rest) with
    | true =>
      rw [cutAtStarts_of_start hstart, hcut'] at hcut
      cases hcut
      have hupper : isUpper d = true := (Bool.and_eq_true_iff.mp hstart).1
      have hform : upperForm d = [d] := by
        rcases hd with hlower | ⟨-, l, hforms⟩
        · rw [hlower.not_upper] at hupper
          cases hupper
        · exact hforms.upper
      rw [capitalsStart_cons, ← ih hrest hcut', List.flatMap_cons, capitalWord, hform]
      simp [lowerWord, hstart]
    | false =>
      rw [cutAtStarts_of_not_start hstart, hcut'] at hcut
      cases hcut
      have hword : lowerWord (d :: w') = lowerForm d ++ lowerWord w' :=
        lowerWord.eq_3 d w' fun hsigma _ => hd.ne_sigma hsigma
      rw [capitalsStart_cons, ← ih hrest hcut', hword, hstart]
      rcases hd with hlower | ⟨hupper, l, hforms⟩
      · simp [hlower.lower, hlower.not_upper]
      · have hne : l ≠ d := by
          rintro rfl
          rw [hforms.lower.not_upper] at hupper
          cases hupper
        simp [hforms.lower.lower, hupper, hne]

/-- A text in camel case is its own camel case if and only if every capital behind its first
character starts a word. -/
theorem upperCamel_eq_self_iff {name : String} (h : ∀ c ∈ name.toList, IsCamelChar c)
    (hfirst : ∀ c, name.toList.head? = some c → upperForm c = [c]) :
    upperCamel name = name ↔ KeepsCapitals name.toList := by
  rw [← String.toList_inj, upperCamel, String.toList_ofList, words_of_isCamelChar h]
  cases hname : name.toList with
  | nil => simp [cutAtStarts, KeepsCapitals]
  | cons c rest =>
    rw [hname] at h hfirst
    obtain ⟨w, ws, hcut⟩ := exists_cutAtStarts .boundary c rest
    rw [hcut, List.flatMap_cons, capitalWord, hfirst c rfl, KeepsCapitals,
      ← recased_iff (List.forall_mem_cons.mp h).2 hcut]
    simp

/-- A name in camel case behind a text in camel case. -/
theorem upperCamel_append_iff {p name : String} (hp : ∀ c ∈ p.toList, IsCamelChar c)
    (hfirst : ∃ c, p.toList.head? = some c ∧ upperForm c = [c]) (h : HasRegularLetters name) :
    upperCamel (p ++ upperCamel name) = p ++ upperCamel name ↔
      KeepsCapitals (p ++ upperCamel name).toList := by
  obtain ⟨c, hc, hform⟩ := hfirst
  apply upperCamel_eq_self_iff
  · rw [String.toList_append, List.forall_mem_append]
    exact ⟨hp, isCamelChar_upperCamel h⟩
  · rw [String.toList_append, List.head?_append, hc]
    rintro d ⟨⟩
    exact hform

end RpcScaffold.Text
