import Mathlib.Data.List.Basic
import Mathlib.Data.List.DropRight
import RpcScaffold.Proofs.DomainType.RoundTrip

/-!
# The grammar of type expressions

An expression is a form with white space around it, and a form is a word or is made of expressions.
Reading only looks at the ends of a text, at its first angle bracket and at its first comma outside
all brackets. It still accepts exactly what has a derivation, and gives the type of the derivation.
-/

namespace RpcScaffold.DomainType

open Text

/-! ## Derivations -/

/-- White space around a form. -/
structure Margin where
  before : List Char
  after : List Char
  blank : ∀ c ∈ before ++ after, isBlank c = true

def Margin.around (m : Margin) (form : List Char) : List Char := m.before ++ form ++ m.after

/-- One of the words, in any ASCII case. -/
structure Head (words : List String) where
  text : List Char
  spelled : String.ofList (text.map Char.toLower) ∈ words

/-- How a text is an expression. There is one node for each expression in it. -/
inductive Derivation
  | array (margin : Margin) (element : Derivation)
  | list (margin : Margin) (head : Head ["list", "vec"]) (element : Derivation)
  | map (margin : Margin) (head : Head ["map", "hashmap", "btreemap"]) (key value : Derivation)
  | scalar (margin : Margin) (word : String) (type : DomainType) (h : keyword? word = some type)
  | model (margin : Margin) (name : String) (hid : isIdentifier name = true)
    (h : keyword? name = none)

namespace Derivation

def margin : Derivation → Margin
  | array m _ | list m _ _ | map m _ _ _ | scalar m _ _ _ | model m _ _ _ => m

/-- The text without the white space around it. -/
def form : Derivation → List Char
  | array _ e => e.margin.around e.form ++ ['[', ']']
  | list _ head e => head.text ++ ['<'] ++ e.margin.around e.form ++ ['>']
  | map _ head k v =>
    head.text ++ ['<'] ++ (k.margin.around k.form ++ [','] ++ v.margin.around v.form) ++ ['>']
  | scalar _ word _ _ => word.toList
  | model _ name _ _ => name.toList

def text (d : Derivation) : List Char := d.margin.around d.form

def type : Derivation → DomainType
  | array _ e => .array e.type
  | list _ _ e => .list e.type
  | map _ _ k v => .map k.type v.type
  | scalar _ _ t _ => t
  | model _ name _ _ => .named name

/-- White space in front of an array could as well be in front of its element. Here it never is. -/
def IsTight : Derivation → Prop
  | array _ e => e.margin.before = [] ∧ e.IsTight
  | list _ _ e => e.IsTight
  | map _ _ k v => k.IsTight ∧ v.IsTight
  | scalar .. | model .. => True

end Derivation

/-! ## White space -/

theorem exists_margin (cs : List Char) : ∃ m : Margin, cs = m.around (trim cs) := by
  have hstart := List.takeWhile_append_dropWhile (p := isBlank) (l := cs)
  have hend := List.rdropWhile_append_rtakeWhile (p := isBlank) (l := trimStart cs)
  refine ⟨⟨cs.takeWhile isBlank, (trimStart cs).rtakeWhile isBlank, ?_⟩, ?_⟩
  · rw [List.forall_mem_append]
    refine ⟨fun c hc => List.mem_takeWhile_imp hc, fun c hc => ?_⟩
    rw [List.rtakeWhile, List.mem_reverse] at hc
    exact List.mem_takeWhile_imp hc
  · rw [Margin.around, List.append_assoc]
    change cs = cs.takeWhile isBlank ++
      ((trimStart cs).rdropWhile isBlank ++ (trimStart cs).rtakeWhile isBlank)
    rw [hend]
    exact hstart.symm

theorem trimStart_append (cs : List Char) {c : Char} (hc : isBlank c = false) (rest : List Char) :
    trimStart (cs ++ c :: rest) = trimStart cs ++ c :: rest := by
  induction cs with
  | nil => exact List.dropWhile_cons_of_neg (by simp [hc])
  | cons d cs ih =>
    cases hd : isBlank d with
    | true =>
      rw [List.cons_append, trimStart, List.dropWhile_cons_of_pos hd, trimStart,
        List.dropWhile_cons_of_pos hd]
      exact ih
    | false =>
      rw [List.cons_append, trimStart, List.dropWhile_cons_of_neg (by simp [hd]), trimStart,
        List.dropWhile_cons_of_neg (by simp [hd]), List.cons_append]

/-- Behind the last mark of a form only the margin is dropped. -/
theorem trim_around (m : Margin) (cs : List Char) {c : Char} (hc : isBlank c = false) :
    trim (m.around (cs ++ [c])) = trimStart cs ++ [c] := by
  have hblank := List.forall_mem_append.mp m.blank
  have hsplit : m.around (cs ++ [c]) = m.before ++ (cs ++ c :: m.after) := by
    simp [Margin.around]
  have hend : m.after.reverse.dropWhile isBlank = [] := by
    rw [List.dropWhile_eq_nil_iff]
    exact fun d hd => hblank.2 d (List.mem_reverse.mp hd)
  rw [trim, hsplit, trimStart, List.dropWhile_append_of_pos hblank.1, ← trimStart,
    trimStart_append cs hc, trimEnd, List.reverse_append, List.reverse_cons, List.append_assoc,
    List.singleton_append, List.dropWhile_append, hend]
  simp [hc]

/-- No white space at either end. -/
def IsBare (cs : List Char) : Prop :=
  (∃ c rest, cs = c :: rest ∧ isBlank c = false) ∧ ∃ rest c, cs = rest ++ [c] ∧ isBlank c = false

theorem IsBare.trim_around {cs : List Char} (h : IsBare cs) (m : Margin) :
    trim (m.around cs) = cs := by
  obtain ⟨⟨c, rest, hfirst, hc⟩, front, d, hlast, hd⟩ := h
  have hstart : trimStart (front ++ [d]) = front ++ [d] := by
    rw [← hlast, hfirst]
    exact List.dropWhile_cons_of_neg (by simp [hc])
  rw [hlast, DomainType.trim_around m front hd, ← hstart, trimStart_append front hd]

theorem IsBare.trim_eq {cs : List Char} (h : IsBare cs) : trim cs = cs := by
  have htrim := h.trim_around ⟨[], [], by simp⟩
  simpa [Margin.around] using htrim

theorem trim_trimStart (cs : List Char) : trim (trimStart cs) = trim cs := by
  rw [trim, trim, trimStart, trimStart, List.dropWhile_idempotent]

/-- Reading ignores the margin. -/
theorem parseChars_congr {cs ds : List Char} (h : trim cs = trim ds) :
    parseChars cs = parseChars ds := by
  rw [parseChars, h, ← parseChars]

/-! ## Words in front of a bracket -/

theorem isIdentRest_of_toLower {c : Char} (h : isIdentRest c.toLower = true) :
    isIdentRest c = true := by
  unfold Char.toLower at h
  split_ifs at h with hupper
  · have hletter : c.isAlpha = true := Bool.or_eq_true_iff.mpr (.inl (decide_eq_true hupper))
    simp [isIdentRest, Char.isAlphanum, hletter]
  · exact h

theorem Head.quiet {words : List String} (head : Head words)
    (hwords : ∀ w ∈ words, isIdentifier w = true) : ∀ c ∈ head.text, IsQuiet c := by
  intro c hc
  apply isQuiet_of_isIdentRest
  apply isIdentRest_of_toLower
  apply (isIdentifier_iff.mp (hwords _ head.spelled)).2
  rw [String.toList_ofList]
  exact List.mem_map_of_mem hc

theorem IsQuiet.ne_open {c : Char} (h : IsQuiet c) : c ≠ '<' := by
  rintro rfl
  exact h.2.1 (by decide)

theorem Head.open_not_mem {words : List String} (head : Head words)
    (hwords : ∀ w ∈ words, isIdentifier w = true) : '<' ∉ head.text :=
  fun hmem => (head.quiet hwords '<' hmem).ne_open rfl

/-! ## The parts of a form -/

theorem arrayPart?_eq_some {cs inner : List Char} (h : arrayPart? cs = some inner) :
    cs = inner ++ ['[', ']'] := by
  unfold arrayPart? at h
  split at h
  · next r hr =>
    cases h
    rw [← List.reverse_reverse cs, hr]
    simp
  · cases h

theorem genericPart?_eq_some {heads : List String} {cs inner : List Char}
    (h : genericPart? heads cs = some inner) :
    ∃ head : Head heads, cs = head.text ++ ['<'] ++ inner ++ ['>'] := by
  unfold genericPart? at h
  split at h
  · cases h
  · next mark inside hinside =>
    split_ifs at h with hend
    obtain rfl := Option.some.inj h
    have hmark : (mark != '<') = false := by
      have hhead := List.head?_dropWhile_not (· != '<') cs
      rw [hinside] at hhead
      simpa using hhead
    have hsplit := List.takeWhile_append_dropWhile (p := (· != '<')) (l := cs)
    have hlast : inside = inside.dropLast ++ ['>'] := by
      obtain ⟨front, hfront⟩ := List.getLast?_eq_some_iff.mp hend.1
      rw [hfront, List.dropLast_concat]
    refine ⟨⟨cs.takeWhile (· != '<'), hend.2⟩, ?_⟩
    obtain rfl : mark = '<' := by simpa using hmark
    rw [hinside, hlast] at hsplit
    simpa using hsplit.symm

theorem commaParts?_eq_some {cs k v : List Char} {depth : Nat}
    (h : commaParts? depth cs = some (k, v)) : cs = k ++ [','] ++ v := by
  induction cs generalizing depth k with
  | nil => cases h
  | cons c rest ih =>
    rw [commaParts?] at h
    split_ifs at h with hcomma
    · cases h
      rw [hcomma.1]
      rfl
    · obtain ⟨parts, hparts, heq⟩ := Option.map_eq_some_iff.mp h
      cases heq
      rw [ih hparts]
      rfl

/-! ## What is read has a derivation -/

theorem head?_trim {cs : List Char} {c : Char} (h : (trim cs).head? = some c) :
    isBlank c = false := by
  have hprefix : trim cs <+: trimStart cs := List.rdropWhile_prefix isBlank _
  have hhead : (trimStart cs).head? = some c := by
    obtain ⟨rest, hrest⟩ := hprefix
    rw [← hrest, List.head?_append, h]
    rfl
  have hnot := List.head?_dropWhile_not isBlank cs
  rw [← trimStart, hhead] at hnot
  simpa using hnot

/-- The margin of a text that starts without white space. -/
theorem Derivation.before_eq_nil {d : Derivation}
    (h : ∀ c, d.text.head? = some c → isBlank c = false) : d.margin.before = [] := by
  cases hbefore : d.margin.before with
  | nil => rfl
  | cons c rest =>
    have hblank : isBlank c = true := d.margin.blank c (by simp [hbefore])
    have hhead : d.text.head? = some c := by simp [Derivation.text, Margin.around, hbefore]
    rw [h c hhead] at hblank
    cases hblank

theorem exists_derivation {cs : List Char} {t : DomainType} (h : parseChars cs = .ok t) :
    ∃ d : Derivation, d.IsTight ∧ d.text = cs ∧ d.type = t := by
  induction cs using parseChars.induct generalizing t with
  | case1 cs hempty =>
    rw [parseChars, if_pos hempty] at h
    cases h
  | case2 cs hne inner harray ih =>
    rw [parseChars_array hne harray] at h
    obtain ⟨e, he, rfl⟩ := map_eq_ok.mp h
    obtain ⟨d, htight, htext, rfl⟩ := ih he
    obtain ⟨m, hm⟩ := exists_margin cs
    have hform := arrayPart?_eq_some harray
    have hbefore : d.margin.before = [] := by
      apply Derivation.before_eq_nil
      intro c hc
      have hhead : (trim cs).head? = some c := by
        rw [hform, ← htext, List.head?_append, hc]
        rfl
      exact head?_trim hhead
    refine ⟨.array m d, ⟨hbefore, htight⟩, ?_, rfl⟩
    rw [hm, hform, ← htext]
    rfl
  | case3 cs hne harray inner hlist ih =>
    rw [parseChars_list hne harray hlist] at h
    obtain ⟨e, he, rfl⟩ := map_eq_ok.mp h
    obtain ⟨d, htight, htext, rfl⟩ := ih he
    obtain ⟨m, hm⟩ := exists_margin cs
    obtain ⟨head, hform⟩ := genericPart?_eq_some hlist
    refine ⟨.list m head d, htight, ?_, rfl⟩
    rw [hm, hform, ← htext]
    rfl
  | case4 cs hne harray hlist inside hmap hcomma =>
    rw [parseChars_unpaired hne harray hlist hmap hcomma] at h
    cases h
  | case5 cs hne harray hlist inside hmap k v hcomma ihk ihv =>
    rw [parseChars_map hne harray hlist hmap hcomma] at h
    obtain ⟨key, hkey, h⟩ := bind_eq_ok.mp h
    obtain ⟨value, hvalue, h⟩ := bind_eq_ok.mp h
    cases pure_eq_ok.mp h
    obtain ⟨dk, hk, hktext, rfl⟩ := ihk hkey
    obtain ⟨dv, hv, hvtext, rfl⟩ := ihv hvalue
    obtain ⟨m, hm⟩ := exists_margin cs
    obtain ⟨head, hform⟩ := genericPart?_eq_some hmap
    refine ⟨.map m head dk dv, ⟨hk, hv⟩, ?_, rfl⟩
    rw [hm, hform, commaParts?_eq_some hcomma, ← hktext, ← hvtext]
    rfl
  | case6 cs hne harray hlist hmap =>
    rw [parseChars_word hne harray hlist hmap] at h
    obtain ⟨m, hm⟩ := exists_margin cs
    unfold parseWord at h
    split at h
    · next hkeyword =>
      cases h
      refine ⟨.scalar m _ _ hkeyword, trivial, ?_, rfl⟩
      conv_rhs => rw [hm]
      simp [Derivation.text, Derivation.margin, Derivation.form]
    · next hkeyword =>
      split_ifs at h with hid
      cases h
      refine ⟨.model m _ hid hkeyword, trivial, ?_, rfl⟩
      conv_rhs => rw [hm]
      simp [Derivation.text, Derivation.margin, Derivation.form]

/-! ## What has a derivation is read -/

theorem isIdentifier_of_keyword? {word : String} {t : DomainType} (h : keyword? word = some t) :
    isIdentifier word = true := by
  unfold keyword? at h
  split at h <;> cases h <;> decide

theorem Margin.passes (m : Margin) {form : List Char} {d : Nat} (h : Passes form d d) :
    Passes (m.around form) d d := by
  have hflat : ∀ c, isBlank c = true → c ∉ [',', '<', '>'] := by
    rintro c hc hmem
    have hmarks : [',', '<', '>'].all (!isBlank ·) = true := by decide
    have hmark := List.all_eq_true.mp hmarks c hmem
    rw [hc] at hmark
    cases hmark
  have hblank := List.forall_mem_append.mp m.blank
  have hbefore : Passes m.before d d := .flat d fun c hc => hflat c (hblank.1 c hc)
  have hafter : Passes m.after d d := .flat d fun c hc => hflat c (hblank.2 c hc)
  exact (hbefore.append h).append hafter

theorem Passes.brackets {head inside : List Char} {d : Nat} (hhead : ∀ c ∈ head, IsQuiet c)
    (h : Passes inside (d + 1) (d + 1)) : Passes (head ++ ['<'] ++ inside ++ ['>']) d d := by
  have hflat : Passes head d d := .flat d fun c hc => (hhead c hc).2.1
  exact ((hflat.append (.opening d)).append h).append (.closing d)

theorem Derivation.passes (d : Derivation) : ∀ n, Passes d.text n n := by
  induction d with
  | array m e ih => exact fun n => m.passes ((ih n).append (.flat n (by simp)))
  | list m head e ih => exact fun n => m.passes (.brackets (head.quiet (by decide)) (ih _))
  | map m head k v ihk ihv =>
    intro n
    have hinside : Passes (k.text ++ [','] ++ v.text) (n + 1) (n + 1) :=
      ((ihk _).append (.inside n)).append (ihv _)
    exact m.passes (.brackets (head.quiet (by decide)) hinside)
  | scalar m word t h =>
    exact fun n => m.passes
      (.flat n fun c hc => (quiet_of_isIdentifier (isIdentifier_of_keyword? h) c hc).2.1)
  | model m name hid h =>
    exact fun n => m.passes (.flat n fun c hc => (quiet_of_isIdentifier hid c hc).2.1)

/-- The comma behind the first of two expressions is the first one outside all brackets. -/
theorem Derivation.commaParts? (k v : Derivation) :
    commaParts? 0 (k.text ++ [','] ++ v.text) = some (k.text, v.text) := by
  rw [List.append_assoc, k.passes]
  simp [DomainType.commaParts?]

theorem isBare_word {word : String} (h : isIdentifier word = true) : IsBare word.toList := by
  have hblank := fun c hc => (quiet_of_isIdentifier h c hc).1
  obtain ⟨⟨c, hc, -⟩, -⟩ := isIdentifier_iff.mp h
  obtain ⟨rest, hrest⟩ := List.head?_eq_some_iff.mp hc
  obtain ⟨front, last, hlast⟩ := List.eq_nil_or_concat word.toList |>.resolve_left (by simp [hrest])
  rw [List.concat_eq_append] at hlast
  exact ⟨⟨c, rest, hrest, hblank c (by simp [hrest])⟩, front, last, hlast,
    hblank last (by simp [hlast])⟩

theorem Head.isBare {words : List String} (head : Head words)
    (hwords : ∀ w ∈ words, isIdentifier w = true) (cs : List Char) :
    IsBare (head.text ++ ['<'] ++ cs ++ ['>']) := by
  refine ⟨?_, _, '>', rfl, by decide⟩
  cases htext : head.text with
  | nil => exact ⟨'<', _, rfl, by decide⟩
  | cons c rest => exact ⟨c, _, rfl, (head.quiet hwords c (by simp [htext])).1⟩

theorem parseChars_word_around (m : Margin) {word : String} {t : DomainType}
    (hid : isIdentifier word = true) (hread : parseWord word = .ok t) :
    parseChars (m.around word.toList) = .ok t := by
  have hbare := isBare_word hid
  rw [parseChars_congr (hbare.trim_around m |>.trans hbare.trim_eq.symm),
    parseChars_of_isIdentifier hid, hread]

theorem Head.genericPart? {words : List String} (head : Head words)
    (hwords : ∀ w ∈ words, isIdentifier w = true) (heads : List String) (cs : List Char) :
    genericPart? heads (head.text ++ ['<'] ++ cs ++ ['>']) =
      if String.ofList (head.text.map Char.toLower) ∈ heads then some cs else none :=
  genericPart?_brackets (head.open_not_mem hwords) heads cs

theorem Derivation.parseChars_text (d : Derivation) : parseChars d.text = .ok d.type := by
  induction d with
  | array m e ih =>
    have htrim : trim (m.around (e.text ++ ['[', ']'])) = trimStart e.text ++ ['[', ']'] := by
      have hmargin := trim_around m (e.text ++ ['[']) (c := ']') (by decide)
      rw [trimStart_append e.text (by decide)] at hmargin
      simpa using hmargin
    change parseChars (m.around (e.text ++ ['[', ']'])) = _
    rw [parseChars_array (by rw [htrim]; simp) (by rw [htrim, arrayPart?_append]),
      parseChars_congr (trim_trimStart _), ih]
    rfl
  | list m head e ih =>
    have htrim := (head.isBare (by decide) e.text).trim_around m
    have hlist := head.genericPart? (by decide) listHeads e.text
    rw [if_pos (by exact head.spelled)] at hlist
    change parseChars (m.around (head.text ++ ['<'] ++ e.text ++ ['>'])) = _
    rw [parseChars_list (by rw [htrim]; simp) (by rw [htrim, arrayPart?_closing])
      (by rw [htrim, hlist]), ih]
    rfl
  | map m head k v ihk ihv =>
    have htrim := (head.isBare (by decide) (k.text ++ [','] ++ v.text)).trim_around m
    have hmap := head.genericPart? (by decide) mapHeads (k.text ++ [','] ++ v.text)
    have hlist := head.genericPart? (by decide) listHeads (k.text ++ [','] ++ v.text)
    have hapart : ∀ w ∈ ["map", "hashmap", "btreemap"], w ∉ listHeads := by decide
    rw [if_pos (by exact head.spelled)] at hmap
    rw [if_neg (hapart _ head.spelled)] at hlist
    change parseChars (m.around (head.text ++ ['<'] ++ (k.text ++ [','] ++ v.text) ++ ['>'])) = _
    rw [parseChars_map (by rw [htrim]; simp) (by rw [htrim, arrayPart?_closing])
      (by rw [htrim, hlist]) (by rw [htrim, hmap]) (k.commaParts? v), ihk, ihv]
    rfl
  | scalar m word t h =>
    exact parseChars_word_around m (isIdentifier_of_keyword? h) (by rw [parseWord, h]; rfl)
  | model m name hid h =>
    exact parseChars_word_around m hid (by rw [parseWord, h]; exact if_pos hid)

/-! ## One derivation -/

theorem Derivation.type_eq_of_text_eq {d d' : Derivation} (h : d.text = d'.text) :
    d.type = d'.type := by
  have hread := d.parseChars_text
  rw [h, d'.parseChars_text] at hread
  exact (Except.ok.inj hread).symm

theorem IsBare.around_inj {m m' : Margin} {cs ds : List Char} (hcs : IsBare cs) (hds : IsBare ds)
    (h : m.around cs = m'.around ds) : m = m' ∧ cs = ds := by
  obtain rfl : cs = ds := by rw [← hcs.trim_around m, h, hds.trim_around m']
  have hbefore : ∀ m : Margin, (m.around cs).takeWhile isBlank = m.before := by
    intro m
    obtain ⟨⟨c, rest, rfl, hc⟩, -⟩ := hcs
    have hblank := (List.forall_mem_append.mp m.blank).1
    rw [Margin.around, List.append_assoc, List.takeWhile_append_of_pos hblank]
    simp [hc]
  have heq : m.before = m'.before := by rw [← hbefore m, h, hbefore m']
  rw [Margin.around, Margin.around, heq, List.append_assoc, List.append_assoc] at h
  have hafter : m.after = m'.after := List.append_cancel_left (List.append_cancel_left h)
  cases m
  cases m'
  simp only at heq hafter
  subst heq hafter
  exact ⟨rfl, rfl⟩

theorem Derivation.IsTight.isBare {d : Derivation} (h : d.IsTight) : IsBare d.form := by
  induction d with
  | array m e ih =>
    obtain ⟨hbefore, htight⟩ := h
    obtain ⟨⟨c, rest, hform, hc⟩, -⟩ := ih htight
    refine ⟨⟨c, rest ++ e.margin.after ++ ['[', ']'], ?_, hc⟩, e.text ++ ['['], ']', ?_, by decide⟩
    · simp [Derivation.form, Margin.around, hbefore, hform]
    · simp [Derivation.form, Derivation.text]
  | list m head e ih => exact head.isBare (by decide) _
  | map m head k v ihk ihv => exact head.isBare (by decide) _
  | scalar m word t hword => exact isBare_word (isIdentifier_of_keyword? hword)
  | model m name hid hword => exact isBare_word hid

theorem Head.eq_of_brackets {words : List String} {head head' : Head words}
    (hwords : ∀ w ∈ words, isIdentifier w = true) {cs ds : List Char}
    (h : head.text ++ ['<'] ++ cs ++ ['>'] = head'.text ++ ['<'] ++ ds ++ ['>']) :
    head = head' ∧ cs = ds := by
  have htake : ∀ (head : Head words) (cs : List Char),
      (head.text ++ ['<'] ++ cs).takeWhile (· != '<') = head.text := by
    intro head cs
    have hne : ∀ c ∈ head.text, (c != '<') = true :=
      fun c hc => bne_iff_ne.mpr (head.quiet hwords c hc).ne_open
    rw [List.append_assoc, List.takeWhile_append_of_pos hne]
    simp
  have hcut := List.append_cancel_right h
  have htext : head.text = head'.text := by rw [← htake head cs, hcut, htake head' ds]
  rw [htext] at hcut
  have hinside := List.append_cancel_left hcut
  cases head
  cases head'
  cases htext
  exact ⟨rfl, hinside⟩

theorem Derivation.IsTight.agree {d d' : Derivation} (h : d.IsTight) (h' : d'.IsTight)
    (htext : d.text = d'.text) :
    d.margin = d'.margin ∧ d.form = d'.form ∧ d.type = d'.type := by
  obtain ⟨hmargin, hform⟩ := h.isBare.around_inj h'.isBare htext
  exact ⟨hmargin, hform, type_eq_of_text_eq htext⟩

/-- Two tight derivations of one text have the same margins and forms all the way down. -/
theorem Derivation.IsTight.unique {d d' : Derivation} (h : d.IsTight) (h' : d'.IsTight)
    (htext : d.text = d'.text) : d = d' := by
  induction d generalizing d' with
  | array m e ih =>
    obtain ⟨hmargin, hform, htype⟩ := h.agree h' htext
    cases d' with
    | array m' e' =>
      cases hmargin
      rw [ih h.2 h'.2 (List.append_cancel_right hform)]
    | list | map | model => cases htype
    | scalar m' word t hword =>
      cases htype
      exact (isScalar_of_keyword? hword).elim
  | list m head e ih =>
    obtain ⟨hmargin, hform, htype⟩ := h.agree h' htext
    cases d' with
    | list m' head' e' =>
      cases hmargin
      obtain ⟨rfl, hinside⟩ := Head.eq_of_brackets (by decide) hform
      have htight : e'.IsTight := h'
      rw [ih h htight hinside]
    | array | map | model => cases htype
    | scalar m' word t hword =>
      cases htype
      exact (isScalar_of_keyword? hword).elim
  | map m head k v ihk ihv =>
    obtain ⟨hmargin, hform, htype⟩ := h.agree h' htext
    cases d' with
    | map m' head' k' v' =>
      cases hmargin
      obtain ⟨rfl, hinside⟩ := Head.eq_of_brackets (by decide) hform
      have hcomma := k.commaParts? v
      rw [Derivation.text, Derivation.text, hinside, ← Derivation.text, ← Derivation.text,
        k'.commaParts? v', Option.some.injEq, Prod.mk.injEq] at hcomma
      rw [ihk h.1 h'.1 hcomma.1.symm, ihv h.2 h'.2 hcomma.2.symm]
    | array | list | model => cases htype
    | scalar m' word t hword =>
      cases htype
      exact (isScalar_of_keyword? hword).elim
  | scalar m word t hword =>
    obtain ⟨hmargin, hform, htype⟩ := h.agree h' htext
    cases d' with
    | scalar m' word' t' hword' =>
      cases hmargin
      cases htype
      obtain rfl := String.toList_inj.mp hform
      rfl
    | array | list | map | model =>
      cases htype
      exact (isScalar_of_keyword? hword).elim
  | model m name hid hword =>
    obtain ⟨hmargin, hform, htype⟩ := h.agree h' htext
    cases d' with
    | model m' name' hid' hword' =>
      cases hmargin
      cases htype
      rfl
    | array | list | map => cases htype
    | scalar m' word t hword =>
      cases htype
      exact (isScalar_of_keyword? hword).elim

/-! ## What reading accepts -/

/-- Reading gives the type of a derivation, and refuses a text that has none. All derivations of a
text give one type, and they only differ in the white space in front of arrays. -/
theorem parse_derivation (expression : String) :
    (∀ t, parse expression = .ok t ↔
      ∃ d : Derivation, d.text = expression.toList ∧ d.type = t) ∧
    (∀ d : Derivation, d.text = expression.toList →
      (∀ d' : Derivation, d'.text = expression.toList → d'.type = d.type) ∧
      ∃! d' : Derivation, d'.IsTight ∧ d'.text = expression.toList) ∧
    ((¬ ∃ d : Derivation, d.text = expression.toList) →
      ∃ message, (parse expression).mapError ExprFault.failure =
        .error (.invalidArgument message)) := by
  refine ⟨fun t => ⟨fun h => ?_, ?_⟩, fun d hd => ⟨?_, ?_⟩, fun hnone => ?_⟩
  · obtain ⟨d, -, htext, htype⟩ := exists_derivation h
    exact ⟨d, htext, htype⟩
  · rintro ⟨d, htext, rfl⟩
    rw [parse, ← htext, d.parseChars_text]
  · intro d' hd'
    exact Derivation.type_eq_of_text_eq (hd'.trans hd.symm)
  · obtain ⟨d', htight, htext, -⟩ := exists_derivation d.parseChars_text
    refine ⟨d', ⟨htight, htext.trans hd⟩, ?_⟩
    rintro d'' ⟨htight', htext'⟩
    exact htight'.unique htight (htext'.trans (htext.trans hd).symm)
  · cases hread : parse expression with
    | error f => exact ⟨f.message, rfl⟩
    | ok t =>
      obtain ⟨d, -, htext, -⟩ := exists_derivation hread
      exact (hnone ⟨d, htext⟩).elim

/-- The first space could be in front of the element as well. -/
def spaced : Derivation :=
  .array ⟨[' '], [], List.all_eq_true.mp rfl⟩
    (.list ⟨[], [' '], List.all_eq_true.mp rfl⟩ ⟨['V', 'e', 'c'], by decide⟩
      (.model ⟨[' '], ['\t'], List.all_eq_true.mp rfl⟩ "Person" (by decide) (by decide)))

theorem parse_derivation_spaced : spaced.text = " Vec< Person\t> []".toList ∧
    parse " Vec< Person\t> []" = .ok (.array (.list (.named "Person"))) ∧
    (∃! d : Derivation, d.IsTight ∧ d.text = " Vec< Person\t> []".toList) ∧
    ∃ message, (parse "map<string>").mapError ExprFault.failure =
      .error (.invalidArgument message) := by
  obtain ⟨hread, hone, -⟩ := parse_derivation " Vec< Person\t> []"
  obtain ⟨hread', -, herror⟩ := parse_derivation "map<string>"
  have htext : spaced.text = " Vec< Person\t> []".toList := by decide
  refine ⟨htext, (hread _).mpr ⟨spaced, htext, rfl⟩, (hone spaced htext).2, herror ?_⟩
  rintro ⟨d, hd⟩
  have hok := (hread' _).mpr ⟨d, hd, rfl⟩
  have hmap : genericPart? mapHeads (trim "map<string>".toList) = some "string".toList := by decide
  rw [parse, parseChars_unpaired (by decide) (by decide) (by decide) hmap (by decide)] at hok
  cases hok

end RpcScaffold.DomainType
