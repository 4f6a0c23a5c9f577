import Mathlib.Data.List.Forall2
import RpcScaffold.Descriptor
import RpcScaffold.Proofs.Json.Leaves

/-!
# The reader inverts the writers

A value that is not nested too deeply is read back from its text, if its numbers are natural and fit
a word. Which blanks stand between the entries is no matter. The reader puts the members of an
object in the order of their keys.
-/

namespace RpcScaffold.Json

open Reader

/-! ## What is read back -/

mutual

/-- The value with the members of every object by key. -/
def sorted : Json → Json
  | array items => array (sortedItems items)
  | object members => object (sortMembers (sortedMembers members))
  | v => v

def sortedItems : List Json → List Json
  | [] => []
  | v :: rest => sorted v :: sortedItems rest

def sortedMembers : List (String × Json) → List (String × Json)
  | [] => []
  | (k, v) :: rest => (k, sorted v) :: sortedMembers rest

end

theorem sortedItems_eq (items : List Json) : sortedItems items = items.map sorted := by
  induction items with
  | nil => rfl
  | cons v rest ih => rw [sortedItems, ih, List.map_cons]

theorem sortedMembers_eq (members : List (String × Json)) :
    sortedMembers members = members.map fun m => (m.1, m.2.sorted) := by
  induction members with
  | nil => rfl
  | cons m rest ih => rw [sortedMembers, ih, List.map_cons]

/-- At most so many lists and objects inside one another. All numbers are natural and fit a word. -/
inductive Within : Nat → Json → Prop
  | null {depth : Nat} : Within depth null
  | bool {depth : Nat} (b : Bool) : Within depth (bool b)
  | nat {depth n : Nat} (h : n < 2 ^ 64) : Within depth (number (.nat n))
  | string {depth : Nat} (s : String) : Within depth (string s)
  | array {depth : Nat} {items : List Json} (h : ∀ v ∈ items, Within depth v) :
    Within (depth + 1) (array items)
  | object {depth : Nat} {members : List (String × Json)} (h : ∀ m ∈ members, Within depth m.2) :
    Within (depth + 1) (object members)

/-! ## Spacing -/

def IsBlank (cs : List Char) : Prop := ∀ c ∈ cs, c = ' ' ∨ c = '\n'

/-- What comes after an entry: `line` stands before each further entry, and `last` before the
closing bracket. -/
def following (line last : List Char) (close : Char) : List (List Char) → List Char
  | [] => last ++ [close]
  | p :: rest => ',' :: (line ++ p ++ following line last close rest)

/-- What comes after an opening bracket. -/
def enclosed (line last : List Char) (close : Char) : List (List Char) → List Char
  | [] => [close]
  | p :: rest => line ++ p ++ following line last close rest

def memberText (gap : List Char) (text : Json → List Char) (m : String × Json) : List Char :=
  stringText m.1 ++ ':' :: (gap ++ text m.2)

/-- A way to write values at each level of indentation. The ways differ in the blanks before the
entries and brackets of a level, and between a colon and its value. -/
structure Spacing where
  text : Nat → Json → List Char
  line : Nat → List Char
  gap : List Char
  line_blank (level : Nat) : IsBlank (line level)
  gap_blank : IsBlank gap
  null (level : Nat) : text level null = "null".toList
  bool (level : Nat) (b : Bool) : text level (bool b) = boolText b
  number (level : Nat) (n : Number) : text level (number n) = numberText n
  string (level : Nat) (s : String) : text level (string s) = stringText s
  array (level : Nat) (items : List Json) : text level (array items) =
    '[' :: enclosed (line (level + 1)) (line level) ']' (items.map (text (level + 1)))
  object (level : Nat) (members : List (String × Json)) : text level (object members) =
    '\x7b' :: enclosed (line (level + 1)) (line level) '\x7d'
      (members.map (memberText gap (text (level + 1))))

theorem compactItems_eq (v : Json) (rest : List Json) :
    compactItems (v :: rest) ++ [']'] = compact v ++ following [] [] ']' (rest.map compact) := by
  induction rest generalizing v with
  | nil => rfl
  | cons w rest ih => simp [compactItems, following, ih]

theorem compactMembers_eq (m : String × Json) (rest : List (String × Json)) :
    compactMembers (m :: rest) ++ ['\x7d'] =
      memberText [] compact m ++ following [] [] '\x7d' (rest.map (memberText [] compact)) := by
  induction rest generalizing m with
  | nil => rfl
  | cons k rest ih => simp [compactMembers, following, ih, memberText]

/-- Everything on one line, without blanks. -/
def Spacing.oneLine : Spacing where
  text _ := compact
  line _ := []
  gap := []
  line_blank _ := nofun
  gap_blank := nofun
  null _ := rfl
  bool _ _ := rfl
  number _ _ := rfl
  string _ _ := rfl
  array _ items := by
    cases items with
    | nil => rfl
    | cons v rest => rw [compact, List.cons_append, compactItems_eq]; rfl
  object _ members := by
    cases members with
    | nil => rfl
    | cons m rest => rw [compact, List.cons_append, compactMembers_eq]; rfl

theorem lineAt_blank (level : Nat) : IsBlank (lineAt level) := by
  intro c hc
  rcases List.mem_cons.mp hc with rfl | hc
  · exact .inr rfl
  · exact .inl (List.eq_of_mem_replicate hc)

theorem prettyItems_eq (level : Nat) (last : List Char) (items : List Json) :
    prettyItems level items ++ last ++ [']'] =
      following (lineAt level) last ']' (items.map (prettyAt level)) := by
  induction items with
  | nil => rfl
  | cons v rest ih => simp [prettyItems, following, ← ih]

theorem prettyMembers_eq (level : Nat) (last : List Char) (members : List (String × Json)) :
    prettyMembers level members ++ last ++ ['\x7d'] =
      following (lineAt level) last '\x7d' (members.map (memberText [' '] (prettyAt level))) := by
  induction members with
  | nil => rfl
  | cons m rest ih => simp [prettyMembers, following, ← ih, memberText]

/-- Each entry on a line of its own. -/
def Spacing.indented : Spacing where
  text := prettyAt
  line := lineAt
  gap := [' ']
  line_blank := lineAt_blank
  gap_blank := by simp [IsBlank]
  null _ := by rw [prettyAt]
  bool _ _ := by rw [prettyAt]
  number _ _ := by rw [prettyAt]
  string _ _ := by rw [prettyAt]
  array level items := by
    cases items with
    | nil => rw [prettyAt]; rfl
    | cons v rest => simp [prettyAt, enclosed, ← prettyItems_eq]
  object level members := by
    cases members with
    | nil => rw [prettyAt]; rfl
    | cons m rest => simp [prettyAt, enclosed, ← prettyMembers_eq, memberText]

/-! ## Lengths -/

theorem length_le_utf8 (cs : List Char) : cs.length ≤ (utf8 cs).length := by
  induction cs with
  | nil => exact Nat.le_refl 0
  | cons c cs ih =>
    have hpos : 0 < (String.utf8EncodeChar c).length := by
      rw [String.length_utf8EncodeChar]
      exact c.utf8Size_pos
    rw [utf8_cons, List.length_append, List.length_cons]
    omega

theorem length_utf8_le {cs ds : List Char} (h : cs <:+: ds) :
    (utf8 cs).length ≤ (utf8 ds).length := by
  obtain ⟨before, after, rfl⟩ := h
  simp only [utf8_append, List.length_append]
  omega

variable {line last : List Char} {close : Char} {pieces : List (List Char)}

theorem infix_following {p : List Char} (hp : p ∈ pieces) :
    p <:+: following line last close pieces := by
  induction pieces with
  | nil => cases hp
  | cons q rest ih =>
    rcases List.mem_cons.mp hp with rfl | hp
    · exact ⟨',' :: line, following line last close rest, by simp [following]⟩
    · have hrest : following line last close rest <:+: following line last close (q :: rest) :=
        ⟨',' :: (line ++ q), [], by simp [following]⟩
      exact (ih hp).trans hrest

theorem infix_enclosed {p : List Char} (hp : p ∈ pieces) :
    p <:+: enclosed line last close pieces := by
  cases pieces with
  | nil => cases hp
  | cons q rest =>
    rcases List.mem_cons.mp hp with rfl | hp
    · exact ⟨line, following line last close rest, rfl⟩
    · have hrest : following line last close rest <:+: enclosed line last close (q :: rest) :=
        ⟨line ++ q, [], by simp [enclosed]⟩
      exact (infix_following hp).trans hrest

theorem length_lt_following : pieces.length < (following line last close pieces).length := by
  induction pieces with
  | nil => simp [following]
  | cons p rest ih =>
    simp only [following, List.length_cons, List.length_append]
    omega

theorem length_le_enclosed : pieces.length ≤ (enclosed line last close pieces).length := by
  cases pieces with
  | nil => exact Nat.zero_le _
  | cons p rest =>
    have hrest : rest.length < (following line last close rest).length := length_lt_following
    simp only [enclosed, List.length_cons, List.length_append]
    omega

/-! ## Blanks -/

theorem skipSpace_cons {b : UInt8} (h : isSpace b = false) (s : Bytes) :
    skipSpace (b :: s) = b :: s := by
  rw [skipSpace, List.dropWhile_cons, h]
  rfl

theorem skipSpace_blank {cs : List Char} (h : IsBlank cs) (s : Bytes) :
    skipSpace (utf8 cs ++ s) = skipSpace s := by
  induction cs with
  | nil => rfl
  | cons c cs ih =>
    obtain ⟨hc, hcs⟩ := List.forall_mem_cons.mp h
    rcases hc with rfl | rfl
    · exact ih hcs
    · exact ih hcs

theorem skipSpace_blank_cons {cs : List Char} (h : IsBlank cs) {b : UInt8}
    (hb : isSpace b = false) (s : Bytes) : skipSpace (utf8 cs ++ b :: s) = b :: s := by
  rw [skipSpace_blank h, skipSpace_cons hb]

theorem endsNumber_blank {cs : List Char} (h : IsBlank cs) {s : Bytes} (hs : EndsNumber s) :
    EndsNumber (utf8 cs ++ s) := by
  cases cs with
  | nil => exact hs
  | cons c cs =>
    rcases h c List.mem_cons_self with rfl | rfl <;> exact ⟨by decide, by decide, by decide⟩

theorem endsNumber_following (hlast : IsBlank last) (hclose : close = ']' ∨ close = '\x7d')
    (line : List Char) (pieces : List (List Char)) (s : Bytes) :
    EndsNumber (utf8 (following line last close pieces) ++ s) := by
  cases pieces with
  | nil =>
    have hend : EndsNumber (utf8 [close] ++ s) := by
      rcases hclose with rfl | rfl <;> exact ⟨by decide, by decide, by decide⟩
    rw [following, utf8_append, List.append_assoc]
    exact endsNumber_blank hlast hend
  | cons p rest => exact ⟨by decide, by decide, by decide⟩

/-- The bytes after an entry, in front of the next one. -/
theorem utf8_following_cons (p : List Char) (s : Bytes) :
    utf8 (following line last close (p :: pieces)) ++ s =
      44 :: (utf8 line ++ (utf8 (p ++ following line last close pieces) ++ s)) := by
  rw [following, List.append_assoc, utf8_cons, utf8_append, List.append_assoc, List.append_assoc]
  rfl

/-! ## Lists -/

/-- `item` takes the text for the value, and stops where it ends. -/
def Reads (item : Bytes → Result Json) (cs : List Char) (v : Json) : Prop :=
  ∀ s, EndsNumber s → item (utf8 cs ++ s) = .ok (v, s)

/-- Neither space nor the end of a list comes first. -/
def Opens (cs : List Char) : Prop := ∃ b r, utf8 cs = b :: r ∧ isSpace b = false ∧ ascii b ≠ ']'

theorem Opens.append {cs : List Char} (h : Opens cs) (ds : List Char) (s : Bytes) :
    ∃ b r, utf8 (cs ++ ds) ++ s = b :: r ∧ isSpace b = false ∧ ascii b ≠ ']' := by
  obtain ⟨b, r, hbytes, hb⟩ := h
  exact ⟨b, r ++ utf8 ds ++ s, by rw [utf8_append, hbytes]; rfl, hb⟩

variable {item : Bytes → Result Json}

theorem listItems_last {s t rest : Bytes} {v : Json} (hv : item s = .ok (v, t))
    (ht : skipSpace t = 93 :: rest) (fuel : Nat) (acc : List Json) :
    listItems item (fuel + 1) acc s = .ok ((v :: acc).reverse, rest) := by
  have hclose : ascii 93 = ']' := by decide
  simp only [listItems, hv, ht, hclose, if_true]

theorem listItems_next {s t r : Bytes} {b : UInt8} {v : Json} (hv : item s = .ok (v, 44 :: t))
    (ht : skipSpace t = b :: r) (hb : ascii b ≠ ']') (fuel : Nat) (acc : List Json) :
    listItems item (fuel + 1) acc s = listItems item fuel (v :: acc) (b :: r) := by
  have hspace : skipSpace (44 :: t) = 44 :: t := skipSpace_cons (by decide) _
  have hcomma : ascii 44 = ',' := by decide
  have hne : ¬ (',' = ']') := by decide
  simp only [listItems, hv, hspace, hcomma, hne, ht, hb, if_true, if_false]

/-- By induction on the further items. -/
theorem listItems_following (hline : IsBlank line) (hlast : IsBlank last) {vs : List Json}
    (hpieces : List.Forall₂ (fun p v => Opens p ∧ Reads item p v) pieces vs) :
    ∀ {p : List Char} {v : Json} {fuel : Nat}, Reads item p v → pieces.length < fuel → ∀ acc s,
      listItems item fuel acc (utf8 (p ++ following line last ']' pieces) ++ s) =
        .ok (acc.reverse ++ v :: vs, s) := by
  induction hpieces with
  | nil =>
    intro p v fuel hp hfuel acc s
    obtain ⟨fuel, rfl⟩ := Nat.exists_eq_succ_of_ne_zero (Nat.ne_of_gt hfuel)
    have hv := hp _ (endsNumber_following hlast (.inl rfl) line [] s)
    have hclose : skipSpace (utf8 (following line last ']' []) ++ s) = 93 :: s := by
      rw [following, utf8_append, List.append_assoc]
      exact skipSpace_blank_cons hlast (by decide) s
    rw [utf8_append, List.append_assoc, listItems_last hv hclose, List.reverse_cons]
  | @cons q w rest vs hq _ ih =>
    intro p v fuel hp hfuel acc s
    obtain ⟨fuel, rfl⟩ := Nat.exists_eq_succ_of_ne_zero (Nat.ne_of_gt (Nat.zero_lt_of_lt hfuel))
    have hv := hp _ (endsNumber_following hlast (.inl rfl) line (q :: rest) s)
    have hnext := ih hq.2 (Nat.lt_of_succ_lt_succ hfuel) (v :: acc) s
    obtain ⟨b, r, htext, hspace, hopen⟩ := hq.1.append (following line last ']' rest) s
    have hskip := skipSpace_blank_cons hline hspace r
    rw [utf8_following_cons, htext] at hv
    rw [htext] at hnext
    rw [utf8_append, List.append_assoc, utf8_following_cons, htext, listItems_next hv hskip hopen,
      hnext, List.reverse_cons, List.append_assoc]
    rfl

theorem list_enclosed (hline : IsBlank line) (hlast : IsBlank last) {vs : List Json} {fuel : Nat}
    (hpieces : List.Forall₂ (fun p v => Opens p ∧ Reads item p v) pieces vs)
    (hfuel : pieces.length ≤ fuel) (s : Bytes) :
    list item fuel (utf8 (enclosed line last ']' pieces) ++ s) = .ok (vs, s) := by
  cases hpieces with
  | nil =>
    have hspace : skipSpace (93 :: s) = 93 :: s := skipSpace_cons (by decide) s
    have hclose : ascii 93 = ']' := by decide
    change list item fuel (93 :: s) = _
    simp only [list, hspace, hclose, if_true]
  | @cons p v rest vs hp hrest =>
    have hread := listItems_following hline hlast hrest hp.2 hfuel [] s
    obtain ⟨b, r, htext, hspace, hopen⟩ := hp.1.append (following line last ']' rest) s
    have hskip := skipSpace_blank_cons hline hspace r
    rw [htext] at hread
    rw [enclosed, List.append_assoc, utf8_append, List.append_assoc, htext]
    simp only [list, hskip, hopen, if_false]
    exact hread

/-! ## Objects -/

/-- The text is a key, a colon and a text that `item` takes for the value. -/
def ReadsMember (item : Bytes → Result Json) (cs : List Char) (m : String × Json) : Prop :=
  ∃ ds, cs = stringText m.1 ++ ':' :: ds ∧ Reads item ds m.2

theorem memberValue_colon (s : Bytes) : memberValue item (58 :: s) = item s := by
  have hspace : skipSpace (58 :: s) = 58 :: s := skipSpace_cons (by decide) s
  have hcolon : ascii 58 = ':' := by decide
  simp only [memberValue, hspace, hcolon, if_true]

/-- What the reader makes of a member after the opening quote of its key. -/
theorem ReadsMember.exists_key {cs : List Char} {m : String × Json} (h : ReadsMember item cs m)
    (ds : List Char) (s : Bytes) (hs : EndsNumber (utf8 ds ++ s)) : ∃ body value,
    utf8 (cs ++ ds) ++ s = 34 :: body ∧ stringBody body = .ok (m.1, 58 :: value) ∧
      item value = .ok (m.2, utf8 ds ++ s) := by
  obtain ⟨text, rfl, hvalue⟩ := h
  obtain ⟨body, htext, hbody⟩ :=
    stringBody_stringText m.1 (58 :: (utf8 text ++ (utf8 ds ++ s)))
  refine ⟨body, _, ?_, hbody, hvalue _ hs⟩
  rw [← htext, utf8_append, utf8_append, utf8_cons]
  simp only [List.append_assoc]
  rfl

theorem objectMembers_last {body s t rest : Bytes} {key : String} {v : Json}
    (hkey : stringBody body = .ok (key, 58 :: s)) (hv : item s = .ok (v, t))
    (ht : skipSpace t = 125 :: rest) (fuel : Nat) (acc : List (String × Json)) :
    objectMembers item (fuel + 1) acc (34 :: body) = .ok (((key, v) :: acc).reverse, rest) := by
  have hclose : ascii 125 = '\x7d' := by decide
  simp only [objectMembers, List.drop_one, List.tail_cons, hkey, memberValue_colon, hv, ht,
    hclose, if_true]

theorem objectMembers_next {body s t rest : Bytes} {key : String} {v : Json}
    (hkey : stringBody body = .ok (key, 58 :: s)) (hv : item s = .ok (v, 44 :: t))
    (ht : skipSpace t = 34 :: rest) (fuel : Nat) (acc : List (String × Json)) :
    objectMembers item (fuel + 1) acc (34 :: body) =
      objectMembers item fuel ((key, v) :: acc) (34 :: rest) := by
  have hspace : skipSpace (44 :: t) = 44 :: t := skipSpace_cons (by decide) _
  have hcomma : ascii 44 = ',' := by decide
  have hquote : ascii 34 = '"' := by decide
  have hne : ¬ (',' = '\x7d') := by decide
  simp only [objectMembers, List.drop_one, List.tail_cons, hkey, memberValue_colon, hv, hspace,
    hcomma, hne, ht, hquote, if_true, if_false]

/-- By induction on the further members. -/
theorem objectMembers_following (hline : IsBlank line) (hlast : IsBlank last)
    {ms : List (String × Json)} (hpieces : List.Forall₂ (ReadsMember item) pieces ms) :
    ∀ {p : List Char} {m : String × Json} {fuel : Nat}, ReadsMember item p m →
      pieces.length < fuel → ∀ acc s,
      objectMembers item fuel acc (utf8 (p ++ following line last '\x7d' pieces) ++ s) =
        .ok (acc.reverse ++ m :: ms, s) := by
  induction hpieces with
  | nil =>
    intro p m fuel hp hfuel acc s
    obtain ⟨fuel, rfl⟩ := Nat.exists_eq_succ_of_ne_zero (Nat.ne_of_gt hfuel)
    obtain ⟨body, value, htext, hkey, hv⟩ := hp.exists_key (following line last '\x7d' []) s
      (endsNumber_following hlast (.inr rfl) _ _ s)
    have hclose : skipSpace (utf8 (following line last '\x7d' []) ++ s) = 125 :: s := by
      rw [following, utf8_append, List.append_assoc]
      exact skipSpace_blank_cons hlast (by decide) s
    rw [htext, objectMembers_last hkey hv hclose, List.reverse_cons]
  | @cons q k rest ms hq _ ih =>
    intro p m fuel hp hfuel acc s
    obtain ⟨fuel, rfl⟩ := Nat.exists_eq_succ_of_ne_zero (Nat.ne_of_gt (Nat.zero_lt_of_lt hfuel))
    obtain ⟨body, value, htext, hkey, hv⟩ := hp.exists_key
      (following line last '\x7d' (q :: rest)) s (endsNumber_following hlast (.inr rfl) _ _ s)
    have hnext := ih hq (Nat.lt_of_succ_lt_succ hfuel) (m :: acc) s
    obtain ⟨tail, -, htail, -⟩ := hq.exists_key (following line last '\x7d' rest) s
      (endsNumber_following hlast (.inr rfl) _ _ s)
    have hskip := skipSpace_blank_cons hline (by decide : isSpace 34 = false) tail
    rw [utf8_following_cons, htail] at hv
    rw [htail] at hnext
    rw [htext, objectMembers_next hkey hv hskip, hnext, List.reverse_cons, List.append_assoc]
    rfl

theorem object_enclosed (hline : IsBlank line) (hlast : IsBlank last) {ms : List (String × Json)}
    {fuel : Nat} (hpieces : List.Forall₂ (ReadsMember item) pieces ms)
    (hfuel : pieces.length ≤ fuel) (s : Bytes) :
    Reader.object item fuel (utf8 (enclosed line last '\x7d' pieces) ++ s) = .ok (ms, s) := by
  cases hpieces with
  | nil =>
    have hspace : skipSpace (125 :: s) = 125 :: s := skipSpace_cons (by decide) s
    have hclose : ascii 125 = '\x7d' := by decide
    change Reader.object item fuel (125 :: s) = _
    simp only [Reader.object, hspace, hclose, if_true]
  | @cons p m rest ms hp hrest =>
    have hread := objectMembers_following hline hlast hrest hp hfuel [] s
    obtain ⟨tail, -, htail, -⟩ := hp.exists_key (following line last '\x7d' rest) s
      (endsNumber_following hlast (.inr rfl) _ _ s)
    have hskip := skipSpace_blank_cons hline (by decide : isSpace 34 = false) tail
    have hquote : ascii 34 = '"' := by decide
    have hne : ¬ ('"' = '\x7d') := by decide
    rw [htail] at hread
    rw [enclosed, List.append_assoc, utf8_append, List.append_assoc, htail]
    simp only [Reader.object, hskip, hquote, hne, if_true, if_false]
    exact hread

/-! ## Values -/

theorem value_list {fuel limit : Nat} {r s : Bytes} {items : List Json} (hlimit : limit ≠ 0)
    (h : list (value fuel limit) fuel r = .ok (items, s)) :
    value fuel (limit + 1) (91 :: r) = .ok (array items, s) := by
  have hopen : ascii 91 = '[' := by decide
  simp only [value, skipSpace_cons (by decide : isSpace 91 = false), hopen, hlimit, h, if_true,
    if_false]
  rfl

theorem value_object {fuel limit : Nat} {r s : Bytes} {members : List (String × Json)}
    (hlimit : limit ≠ 0) (h : Reader.object (value fuel limit) fuel r = .ok (members, s)) :
    value fuel (limit + 1) (123 :: r) = .ok (object (sortMembers members), s) := by
  have hopen : ascii 123 = '\x7b' := by decide
  have hne : ¬ ('\x7b' = '[') := by decide
  simp only [value, skipSpace_cons (by decide : isSpace 123 = false), hopen, hne, hlimit, h,
    if_true, if_false]
  rfl

theorem ascii_ne_of_isDigit {b : UInt8} (h : isDigit b = true) {c : Char} (hc : c.isDigit = false) :
    ascii b ≠ c := by
  rintro rfl
  rw [isDigit, hc] at h
  cases h

theorem isSpace_of_isDigit {b : UInt8} (h : isDigit b = true) : isSpace b = false := by
  have hne {c : Char} (hc : c.isDigit = false) : (ascii b == c) = false :=
    beq_eq_false_iff_ne.mpr (ascii_ne_of_isDigit h hc)
  simp only [isSpace, hne (show ' '.isDigit = false by decide),
    hne (show '\n'.isDigit = false by decide), hne (show '\t'.isDigit = false by decide),
    hne (show '\r'.isDigit = false by decide), Bool.or_false]

theorem scalar_digit {b : UInt8} (h : isDigit b = true) (s : Bytes) :
    scalar b s = (Reader.number true (b :: s)).map fun r => (.number r.1, r.2) := by
  rw [scalar]
  split
  · next hb => exact absurd hb (ascii_ne_of_isDigit h (by decide))
  · next hb => exact absurd hb (ascii_ne_of_isDigit h (by decide))
  · next hb => exact absurd hb (ascii_ne_of_isDigit h (by decide))
  · next hb => exact absurd hb (ascii_ne_of_isDigit h (by decide))
  · next hb => exact absurd hb (ascii_ne_of_isDigit h (by decide))
  · exact if_pos h

theorem value_digit {b : UInt8} (h : isDigit b = true) (fuel limit : Nat) (s : Bytes) :
    value fuel (limit + 1) (b :: s) =
      (Reader.number true (b :: s)).map fun r => (.number r.1, r.2) := by
  have hlist := ascii_ne_of_isDigit h (show '['.isDigit = false by decide)
  have hobject := ascii_ne_of_isDigit h (show '\x7b'.isDigit = false by decide)
  simp only [value, skipSpace_cons (isSpace_of_isDigit h), hlist, hobject, scalar_digit h, if_false]

theorem reads_nat {n : Nat} (hn : n < 2 ^ 64) (fuel limit : Nat) :
    Reads (value fuel (limit + 1)) (Nat.toDigits 10 n) (number (.nat n)) := by
  intro s hs
  obtain ⟨b, bs, hbytes, hb⟩ := exists_utf8_toDigits n
  have hread := number_toDigits hn hs
  rw [hbytes, List.cons_append] at hread ⊢
  rw [value_digit hb, hread]
  rfl

theorem reads_string (text : String) (fuel limit : Nat) :
    Reads (value fuel (limit + 1)) (stringText text) (string text) := by
  intro s _
  obtain ⟨body, htext, hbody⟩ := stringBody_stringText text s
  have hscalar : scalar 34 body = .ok (string text, s) := by
    change (stringBody body).map _ = _
    rw [hbody]
    rfl
  rw [htext, value, skipSpace_cons (by decide)]
  exact hscalar

theorem Reads.gap {fuel limit : Nat} {cs gap : List Char} {v : Json}
    (h : Reads (value fuel (limit + 1)) cs v) (hgap : IsBlank gap) :
    Reads (value fuel (limit + 1)) (gap ++ cs) v := by
  intro s hs
  have hv := h s hs
  rw [utf8_append, List.append_assoc]
  simp only [value, skipSpace_blank hgap] at hv ⊢
  exact hv

theorem Spacing.opens (w : Spacing) {depth : Nat} {v : Json} (h : Within depth v) (level : Nat) :
    Opens (w.text level v) := by
  cases h with
  | null => exact ⟨_, _, by rw [w.null]; rfl, by decide, by decide⟩
  | bool b => cases b <;> exact ⟨_, _, by rw [w.bool]; rfl, by decide, by decide⟩
  | @nat _ n =>
    obtain ⟨b, bs, hbytes, hb⟩ := exists_utf8_toDigits n
    exact ⟨b, bs, by rw [w.number, numberText, hbytes], isSpace_of_isDigit hb,
      ascii_ne_of_isDigit hb (by decide)⟩
  | string s => exact ⟨_, _, by rw [w.string]; exact utf8_cons _ _, by decide, by decide⟩
  | array h => exact ⟨_, _, by rw [w.array]; exact utf8_cons _ _, by decide, by decide⟩
  | object h => exact ⟨_, _, by rw [w.object]; exact utf8_cons _ _, by decide, by decide⟩

/-- By induction on the nesting: the entries are read with one level less. -/
theorem Spacing.reads (w : Spacing) {depth : Nat} {v : Json} (h : Within depth v) :
    ∀ {fuel limit level : Nat}, (utf8 (w.text level v)).length ≤ fuel → depth ≤ limit →
      Reads (value fuel (limit + 1)) (w.text level v) v.sorted := by
  induction h with
  | null =>
    intro fuel limit level _ _ s _
    rw [w.null]
    rfl
  | bool b =>
    intro fuel limit level _ _ s _
    rw [w.bool]
    cases b <;> rfl
  | nat hn =>
    intro fuel limit level _ _
    rw [w.number]
    exact reads_nat hn fuel limit
  | string text =>
    intro fuel limit level _ _
    rw [w.string]
    exact reads_string text fuel limit
  | @array depth items hitems ih =>
    intro fuel limit level hfuel hlimit s _
    obtain ⟨limit, rfl⟩ := Nat.exists_eq_add_of_le' (Nat.one_le_of_lt hlimit)
    rw [w.array] at hfuel ⊢
    have hinside := (length_utf8_le (List.suffix_cons '[' _).isInfix).trans hfuel
    have hread : List.Forall₂ (fun p v => Opens p ∧ Reads (value fuel (limit + 1)) p v)
        (items.map (w.text (level + 1))) (items.map sorted) := by
      rw [List.forall₂_map_left_iff, List.forall₂_map_right_iff, List.forall₂_same]
      intro v hv
      have hitem : w.text (level + 1) v <:+: enclosed (w.line (level + 1)) (w.line level) ']'
          (items.map (w.text (level + 1))) := infix_enclosed (List.mem_map_of_mem hv)
      exact ⟨w.opens (hitems v hv) _, ih v hv ((length_utf8_le hitem).trans hinside)
        (Nat.le_of_succ_le_succ hlimit)⟩
    have hcount := (length_le_enclosed.trans (length_le_utf8 _)).trans hinside
    have hlist := list_enclosed (w.line_blank (level + 1)) (w.line_blank level) hread hcount s
    rw [sorted, sortedItems_eq]
    exact value_list (Nat.succ_ne_zero limit) hlist
  | @object depth members hmembers ih =>
    intro fuel limit level hfuel hlimit s _
    obtain ⟨limit, rfl⟩ := Nat.exists_eq_add_of_le' (Nat.one_le_of_lt hlimit)
    rw [w.object] at hfuel ⊢
    have hinside := (length_utf8_le (List.suffix_cons '\x7b' _).isInfix).trans hfuel
    have hread : List.Forall₂ (ReadsMember (value fuel (limit + 1)))
        (members.map (memberText w.gap (w.text (level + 1))))
        (members.map fun m => (m.1, m.2.sorted)) := by
      rw [List.forall₂_map_left_iff, List.forall₂_map_right_iff, List.forall₂_same]
      intro m hm
      have hmember : memberText w.gap (w.text (level + 1)) m <:+:
          enclosed (w.line (level + 1)) (w.line level) '\x7d'
            (members.map (memberText w.gap (w.text (level + 1)))) :=
        infix_enclosed (List.mem_map_of_mem hm)
      have hvalue : w.text (level + 1) m.2 <:+: memberText w.gap (w.text (level + 1)) m :=
        ⟨stringText m.1 ++ ':' :: w.gap, [], by simp [memberText]⟩
      have hinner := ih m hm ((length_utf8_le (hvalue.trans hmember)).trans hinside)
        (Nat.le_of_succ_le_succ hlimit)
      exact ⟨_, rfl, hinner.gap w.gap_blank⟩
    have hcount := (length_le_enclosed.trans (length_le_utf8 _)).trans hinside
    have hobject := object_enclosed (w.line_blank (level + 1)) (w.line_blank level) hread hcount s
    rw [sorted, sortedMembers_eq]
    exact value_object (Nat.succ_ne_zero limit) hobject

/-! ## Whole texts -/

/-- A text with any spacing is read back, up to the order of members. -/
theorem Spacing.parse_text (w : Spacing) {depth : Nat} {v : Json} (h : Within depth v)
    (hdepth : depth < depthLimit) {tail : List Char} (htail : IsBlank tail) :
    parse (utf8 (w.text 0 v ++ tail)) = .ok v.sorted := by
  have hfuel := length_utf8_le (List.prefix_append (w.text 0 v) tail).isInfix
  have hend : EndsNumber (utf8 tail) := by
    rw [← List.append_nil (utf8 tail)]
    exact endsNumber_blank htail trivial
  have hrest : skipSpace (utf8 tail) = [] := by
    rw [← List.append_nil (utf8 tail)]
    exact skipSpace_blank htail []
  have hvalue := w.reads h hfuel (Nat.le_sub_one_of_lt hdepth) (utf8 tail) hend
  have hread : readAll depthLimit (utf8 (w.text 0 v ++ tail)) = .ok v.sorted := by
    have hlimit : depthLimit - 1 + 1 = depthLimit := rfl
    rw [hlimit, ← utf8_append] at hvalue
    simp only [readAll, hvalue, hrest]
  rw [parse, hread]
  rfl

theorem bytes_eq (v : Json) : Descriptor.bytes v = utf8 v.compact := by
  simp [Descriptor.bytes, print, utf8, List.utf8Encode]

theorem parse_bytes {depth : Nat} {v : Json} (h : Within depth v) (hdepth : depth < depthLimit) :
    parse (Descriptor.bytes v) = .ok v.sorted := by
  rw [bytes_eq, ← List.append_nil v.compact]
  exact Spacing.oneLine.parse_text h hdepth nofun

end RpcScaffold.Json
