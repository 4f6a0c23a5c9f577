import Mathlib.Data.List.TakeWhile
import RpcScaffold.DomainType.Expression
import RpcScaffold.Proofs.Naming.Identifiers
import RpcScaffold.Proofs.Success

/-!
# Types and their canonical expressions

Reading takes an expression apart from the outside. The form that the canonical expression of a type
shows there is the constructor of the type.
-/

namespace RpcScaffold.DomainType

open Text

/-! ## What reading can give -/

/-- Built up from words that are read as themselves. -/
inductive Proper : DomainType → Prop
  | word {t : DomainType} (hid : isIdentifier t.print = true) (hread : parseWord t.print = .ok t) :
    Proper t
  | array {e : DomainType} (h : Proper e) : Proper (array e)
  | list {e : DomainType} (h : Proper e) : Proper (list e)
  | map {k v : DomainType} (hk : Proper k) (hv : Proper v) : Proper (map k v)

theorem proper_of_keyword? {word : String} {t : DomainType} (h : keyword? word = some t) :
    Proper t := by
  unfold keyword? at h
  split at h <;> cases h <;> exact .word (by decide) rfl

theorem proper_of_parseWord {word : String} {t : DomainType} (h : parseWord word = .ok t) :
    Proper t := by
  have hword := h
  unfold parseWord at h
  split at h
  · next hkeyword =>
    cases h
    exact proper_of_keyword? hkeyword
  · split_ifs at h with hid
    cases h
    exact .word hid hword

/-! ## Reading form by form -/

variable {cs inner : List Char}

theorem parseChars_array (hne : trim cs ≠ []) (harray : arrayPart? (trim cs) = some inner) :
    parseChars cs = array <$> parseChars inner := by
  rw [parseChars, if_neg hne]
  split <;> simp_all

theorem parseChars_list (hne : trim cs ≠ []) (harray : arrayPart? (trim cs) = none)
    (hlist : genericPart? listHeads (trim cs) = some inner) :
    parseChars cs = list <$> parseChars inner := by
  rw [parseChars, if_neg hne]
  split
  · simp_all
  · split <;> simp_all

theorem parseChars_unpaired (hne : trim cs ≠ []) (harray : arrayPart? (trim cs) = none)
    (hlist : genericPart? listHeads (trim cs) = none)
    (hmap : genericPart? mapHeads (trim cs) = some inner) (hcomma : commaParts? 0 inner = none) :
    parseChars cs = .error (.mapArguments (String.ofList (trim cs))) := by
  rw [parseChars, if_neg hne]
  split
  · simp_all
  · split
    · simp_all
    · split
      · split <;> simp_all
      · simp_all

theorem parseChars_map {k v : List Char} (hne : trim cs ≠ []) (harray : arrayPart? (trim cs) = none)
    (hlist : genericPart? listHeads (trim cs) = none)
    (hmap : genericPart? mapHeads (trim cs) = some inner)
    (hcomma : commaParts? 0 inner = some (k, v)) :
    parseChars cs =
      parseChars k >>= fun key => parseChars v >>= fun value => pure (map key value) := by
  rw [parseChars, if_neg hne]
  split
  · simp_all
  · split
    · simp_all
    · split
      · split <;> simp_all
      · simp_all

theorem parseChars_word (hne : trim cs ≠ []) (harray : arrayPart? (trim cs) = none)
    (hlist : genericPart? listHeads (trim cs) = none)
    (hmap : genericPart? mapHeads (trim cs) = none) :
    parseChars cs = parseWord (String.ofList (trim cs)) := by
  rw [parseChars, if_neg hne]
  split
  · simp_all
  · split
    · simp_all
    · split <;> simp_all

theorem proper_of_parseChars {t : DomainType} (h : parseChars cs = .ok t) : Proper t := by
  induction cs using parseChars.induct generalizing t with
  | case1 cs hempty =>
    rw [parseChars, if_pos hempty] at h
    cases h
  | case2 cs hne inner harray ih =>
    rw [parseChars_array hne harray] at h
    obtain ⟨e, he, rfl⟩ := map_eq_ok.mp h
    exact .array (ih he)
  | case3 cs hne harray inner hlist ih =>
    rw [parseChars_list hne harray hlist] at h
    obtain ⟨e, he, rfl⟩ := map_eq_ok.mp h
    exact .list (ih he)
  | case4 cs hne harray hlist inside hmap hcomma =>
    rw [parseChars_unpaired hne harray hlist hmap hcomma] at h
    cases h
  | case5 cs hne harray hlist inside hmap k v hcomma ihk ihv =>
    rw [parseChars_map hne harray hlist hmap hcomma] at h
    obtain ⟨key, hkey, h⟩ := bind_eq_ok.mp h
    obtain ⟨value, hvalue, h⟩ := bind_eq_ok.mp h
    cases pure_eq_ok.mp h
    exact .map (ihk hkey) (ihv hvalue)
  | case6 cs hne harray hlist hmap =>
    rw [parseChars_word hne harray hlist hmap] at h
    exact proper_of_parseWord h

/-! ## Words -/

theorem trim_eq_self (h : ∀ c ∈ cs, isBlank c = false) : trim cs = cs := by
  have hstart : trimStart cs = cs := by
    cases cs with
    | nil => rfl
    | cons c rest => exact List.dropWhile_cons_of_neg (by simp [h c List.mem_cons_self])
  rw [trim, hstart, trimEnd]
  cases hreverse : cs.reverse with
  | nil => rw [List.dropWhile_nil, ← hreverse, List.reverse_reverse]
  | cons c rest =>
    have hc : c ∈ cs := List.mem_reverse.mp (hreverse ▸ List.mem_cons_self)
    rw [List.dropWhile_cons_of_neg (by simp [h c hc]), ← hreverse, List.reverse_reverse]

/-- No mark that reading looks for. -/
def IsQuiet (c : Char) : Prop := isBlank c = false ∧ c ∉ [',', '<', '>'] ∧ c ≠ ']'

instance (c : Char) : Decidable (IsQuiet c) := by
  unfold IsQuiet
  infer_instance

theorem isQuiet_of_isIdentRest {c : Char} (h : isIdentRest c = true) : IsQuiet c := by
  have hall : ∀ n < 128, isIdentRest (Char.ofNat n) = true → IsQuiet (Char.ofNat n) := by decide
  have hascii : c.toNat < 128 := of_decide_eq_true (isAscii_of_isIdentRest h)
  have hc := hall c.toNat hascii
  rw [Char.ofNat_toNat] at hc
  exact hc h

theorem parseChars_of_isIdentifier {word : String} (h : isIdentifier word = true) :
    parseChars word.toList = parseWord word := by
  obtain ⟨⟨c, hhead, -⟩, hrest⟩ := isIdentifier_iff.mp h
  have hquiet := fun c hc => isQuiet_of_isIdentRest (hrest c hc)
  have htrim : trim word.toList = word.toList := trim_eq_self fun c hc => (hquiet c hc).1
  have hnil : word.toList ≠ [] := by
    rintro heq
    rw [heq] at hhead
    cases hhead
  have harray : arrayPart? word.toList = none := by
    unfold arrayPart?
    split
    · next r hr =>
      have hmem : ']' ∈ word.toList := List.mem_reverse.mp (hr ▸ List.mem_cons_self)
      exact absurd rfl (hquiet _ hmem).2.2
    · rfl
  have hgeneric : ∀ heads, genericPart? heads word.toList = none := by
    intro heads
    have hdrop : word.toList.dropWhile (· != '<') = [] := by
      rw [List.dropWhile_eq_nil_iff]
      intro c hc
      have hopen : c ≠ '<' := by
        rintro rfl
        exact (hquiet _ hc).2.1 (by decide)
      simpa using hopen
    rw [genericPart?, hdrop]
  rw [parseChars_word (by rwa [htrim]) (by rwa [htrim]) (by rw [htrim]; exact hgeneric _)
    (by rw [htrim]; exact hgeneric _), htrim, String.ofList_toList]

/-! ## Commas -/

/-- No comma of the text is outside all brackets, and reading goes on behind it at depth `d'`. -/
def Passes (cs : List Char) (d d' : Nat) : Prop := ∀ rest,
  commaParts? d (cs ++ rest) = (commaParts? d' rest).map fun parts => (cs ++ parts.1, parts.2)

theorem Passes.append {cs ds : List Char} {d d' d'' : Nat} (hcs : Passes cs d d')
    (hds : Passes ds d' d'') : Passes (cs ++ ds) d d'' := by
  intro rest
  rw [List.append_assoc, hcs, hds, Option.map_map]
  congr 1
  funext parts
  simp

theorem Passes.single {c : Char} {d : Nat} (h : ¬ (c = ',' ∧ d = 0)) :
    Passes [c] d (depthAfter d c) := by
  intro rest
  rw [List.singleton_append, commaParts?, if_neg h]
  rfl

theorem Passes.opening (d : Nat) : Passes ['<'] d (d + 1) := .single (by simp)

theorem Passes.closing (d : Nat) : Passes ['>'] (d + 1) d := .single (by simp)

theorem Passes.inside (d : Nat) : Passes [','] (d + 1) (d + 1) := .single (by simp)

theorem Passes.flat (d : Nat) (h : ∀ c ∈ cs, c ∉ [',', '<', '>']) : Passes cs d d := by
  induction cs with
  | nil =>
    intro rest
    simp
  | cons c cs ih =>
    have hc := h c List.mem_cons_self
    rw [List.mem_cons, List.mem_pair, not_or, not_or] at hc
    obtain ⟨hcomma, hopen, hclose⟩ := hc
    have hstep : Passes [c] d (depthAfter d c) := .single fun hc => hcomma hc.1
    rw [depthAfter, if_neg hopen, if_neg hclose] at hstep
    exact hstep.append (ih fun c hc => h c (List.mem_cons_of_mem _ hc))

/-! ## Writing -/

@[simp] theorem toList_print_array (e : DomainType) :
    (array e).print.toList = e.print.toList ++ ['[', ']'] := by
  rw [print, String.toList_append]
  rfl

@[simp] theorem toList_print_list (e : DomainType) :
    (list e).print.toList = ['l', 'i', 's', 't'] ++ ['<'] ++ e.print.toList ++ ['>'] := by
  rw [print, String.toList_append, String.toList_append]
  rfl

@[simp] theorem toList_print_map (k v : DomainType) :
    (map k v).print.toList =
      ['m', 'a', 'p'] ++ ['<'] ++ (k.print.toList ++ [','] ++ v.print.toList) ++ ['>'] := by
  rw [print, String.toList_append, String.toList_append, String.toList_append, String.toList_append]
  simp

theorem quiet_of_isIdentifier {word : String} (h : isIdentifier word = true) :
    ∀ c ∈ word.toList, IsQuiet c :=
  fun c hc => isQuiet_of_isIdentRest ((isIdentifier_iff.mp h).2 c hc)

theorem Proper.not_isBlank {t : DomainType} (h : Proper t) :
    ∀ c ∈ t.print.toList, isBlank c = false := by
  induction h with
  | word hid hread => exact fun c hc => (quiet_of_isIdentifier hid c hc).1
  | array h ih =>
    rw [toList_print_array, List.forall_mem_append]
    exact ⟨ih, by simp [isBlank]⟩
  | list h ih =>
    rw [toList_print_list, List.forall_mem_append, List.forall_mem_append]
    exact ⟨⟨by simp [isBlank], ih⟩, by simp [isBlank]⟩
  | map hk hv ihk ihv =>
    simp only [toList_print_map, List.forall_mem_append]
    exact ⟨⟨by simp [isBlank], ⟨ihk, by simp [isBlank]⟩, ihv⟩, by simp [isBlank]⟩

theorem Proper.passes {t : DomainType} (h : Proper t) : ∀ d, Passes t.print.toList d d := by
  induction h with
  | word hid hread => exact fun d => .flat d fun c hc => (quiet_of_isIdentifier hid c hc).2.1
  | array h ih =>
    intro d
    rw [toList_print_array]
    exact (ih d).append (.flat d (by simp))
  | @list e h ih =>
    intro d
    have hhead : Passes ['l', 'i', 's', 't'] d d := .flat d (by simp)
    rw [toList_print_list]
    exact ((hhead.append (.opening d)).append (ih _)).append (.closing d)
  | map hk hv ihk ihv =>
    intro d
    have hhead : Passes ['m', 'a', 'p'] d d := .flat d (by simp)
    rw [toList_print_map]
    exact ((hhead.append (.opening d)).append (((ihk _).append (.inside d)).append (ihv _))).append
      (.closing d)

theorem arrayPart?_append (cs : List Char) : arrayPart? (cs ++ ['[', ']']) = some cs := by
  simp [arrayPart?]

theorem arrayPart?_closing (cs : List Char) : arrayPart? (cs ++ ['>']) = none := by
  simp [arrayPart?]

theorem genericPart?_brackets {head : List Char} (hhead : '<' ∉ head) (heads : List String)
    (cs : List Char) : genericPart? heads (head ++ ['<'] ++ cs ++ ['>']) =
      if String.ofList (head.map Char.toLower) ∈ heads then some cs else none := by
  have hne : ∀ c ∈ head, (c != '<') = true := by
    intro c hc
    rw [bne_iff_ne]
    rintro rfl
    exact hhead hc
  have htake : (head ++ ['<'] ++ cs ++ ['>']).takeWhile (· != '<') = head := by
    rw [List.append_assoc, List.append_assoc, List.takeWhile_append_of_pos hne]
    simp
  have hdrop : (head ++ ['<'] ++ cs ++ ['>']).dropWhile (· != '<') = '<' :: (cs ++ ['>']) := by
    rw [List.append_assoc, List.append_assoc, List.dropWhile_append_of_pos hne]
    simp
  rw [genericPart?, hdrop, headOf, htake]
  simp

theorem Proper.parseChars {t : DomainType} (h : Proper t) : parseChars t.print.toList = .ok t := by
  induction h with
  | word hid hread => rw [parseChars_of_isIdentifier hid, hread]
  | array h ih =>
    have htrim := trim_eq_self h.array.not_isBlank
    rw [toList_print_array] at htrim ⊢
    rw [parseChars_array (by rw [htrim]; simp) (by rw [htrim, arrayPart?_append]),
      ih]
    rfl
  | list h ih =>
    have htrim := trim_eq_self h.list.not_isBlank
    have hgeneric := genericPart?_brackets (by decide : '<' ∉ ['l', 'i', 's', 't'])
    rw [toList_print_list] at htrim ⊢
    rw [parseChars_list (by rw [htrim]; simp) (by rw [htrim, arrayPart?_closing])
      (by rw [htrim, hgeneric]; rfl), ih]
    rfl
  | @map k v hk hv ihk ihv =>
    have htrim := trim_eq_self (hk.map hv).not_isBlank
    have hgeneric := genericPart?_brackets (by decide : '<' ∉ ['m', 'a', 'p'])
    have hcomma : commaParts? 0 (k.print.toList ++ [','] ++ v.print.toList) =
        some (k.print.toList, v.print.toList) := by
      rw [List.append_assoc, hk.passes]
      simp [commaParts?]
    rw [toList_print_map] at htrim ⊢
    rw [parseChars_map (by rw [htrim]; simp) (by rw [htrim, arrayPart?_closing])
      (by rw [htrim, hgeneric]; rfl) (by rw [htrim, hgeneric]; rfl) hcomma,
      ihk, ihv]
    rfl

/-- Writing inverts reading on what reading gives. -/
theorem parse_print {t : DomainType} {expression : String} (h : parse expression = .ok t) :
    parse t.print = .ok t :=
  (proper_of_parseChars h).parseChars

/-! ## Canonical expressions -/

/-- The model names in the type are identifiers and no keywords. -/
def WellNamed : DomainType → Prop
  | array e | list e => e.WellNamed
  | map k v => k.WellNamed ∧ v.WellNamed
  | named m => isIdentifier m = true ∧ keyword? m = none
  | _ => True

/-- A type that is no array, list or map and names no model. -/
def IsScalar : DomainType → Prop
  | array _ | list _ | map _ _ | named _ => False
  | _ => True

theorem isScalar_of_keyword? {word : String} {t : DomainType} (h : keyword? word = some t) :
    t.IsScalar := by
  unfold keyword? at h
  split at h <;> cases h <;> trivial

theorem IsScalar.wellNamed {t : DomainType} (h : t.IsScalar) : t.WellNamed := by
  cases t <;> trivial

theorem wellNamed_of_parseWord {word : String} {t : DomainType} (h : parseWord word = .ok t) :
    t.WellNamed := by
  unfold parseWord at h
  split at h
  · next hkeyword =>
    cases h
    exact (isScalar_of_keyword? hkeyword).wellNamed
  · next hkeyword =>
    split_ifs at h with hid
    cases h
    exact ⟨hid, hkeyword⟩

theorem Proper.wellNamed {t : DomainType} (h : Proper t) : t.WellNamed := by
  induction h with
  | word hid hread => exact wellNamed_of_parseWord hread
  | array h ih => exact ih
  | list h ih => exact ih
  | map hk hv ihk ihv => exact ⟨ihk, ihv⟩

theorem proper_of_wellNamed {t : DomainType} (h : t.WellNamed) : Proper t := by
  induction t with
  | array e ih => exact .array (ih h)
  | list e ih => exact .list (ih h)
  | map k v ihk ihv => exact .map (ihk h.1) (ihv h.2)
  | named m =>
    obtain ⟨hid, hkeyword⟩ := h
    exact .word hid (by rw [print, parseWord, hkeyword]; exact if_pos hid)
  | _ => exact .word (by decide) rfl

/-- Exactly the well-named types are read back from their canonical expressions. What is read is
well-named, so two expressions denote one type if and only if they have one canonical form. -/
theorem parse_print_iff :
    (∀ t : DomainType, parse t.print = .ok t ↔ t.WellNamed) ∧
    ∀ (e e' : String) (t t' : DomainType), parse e = .ok t → parse e' = .ok t' →
      parse t.print = parse e ∧ (parse e = parse e' ↔ t.print = t'.print) := by
  constructor
  · intro t
    constructor
    · exact fun h => (proper_of_parseChars h).wellNamed
    · exact fun h => (proper_of_wellNamed h).parseChars
  · intro e e' t t' he he'
    have hback := parse_print he
    have hback' := parse_print he'
    refine ⟨hback.trans he.symm, ?_⟩
    rw [he, he']
    constructor
    · intro heq
      rw [Except.ok.inj heq]
    · intro heq
      rw [← hback, heq, hback']

theorem parse_print_iff_people :
    parse "map<string,Person[]>" = .ok (.map .string (.array (.named "Person"))) ∧
    parse "String" = parse "string" := by
  obtain ⟨hiff, hcanonical⟩ := parse_print_iff
  have hstring : parse "string" = .ok .string := (hiff .string).mpr trivial
  have hString : parse "String" = .ok .string := by
    rw [parse, parseChars_of_isIdentifier (by decide)]
    rfl
  refine ⟨(hiff (.map .string (.array (.named "Person")))).mpr ⟨trivial, by decide, rfl⟩, ?_⟩
  exact (hcanonical _ _ _ _ hString hstring).2.mpr rfl

end RpcScaffold.DomainType
