import RpcScaffold.Proofs.Code.Contents
import RpcScaffold.Proofs.Converter.Values
import RpcScaffold.Proofs.Generation.Check

/-!
# Paths to converter functions

A reader that finds the functions a text names by their paths, and what it finds in the expressions
of a field: one function for a field with a message, and none for any other.
-/

namespace RpcScaffold.Converter

open Code Text

/-! ## The reader -/

/-- From where a converter function is called. -/
inductive Caller
  /-- Another converter, by `super::module::name`. -/
  | sibling
  /-- A module that imports the converter module, by `module::name`. -/
  | importer
  deriving Repr, DecidableEq

/-- Reads the parts of a path between its colons. -/
def Caller.read : Caller → List String → Option Function
  | sibling, ["super", "", module, "", name] => some ⟨module, name⟩
  | importer, [module, "", name] =>
    if "_converter".toList <:+ module.toList then some ⟨module, name⟩ else none
  | _, _ => none

/-- The colons of a path. -/
def Caller.colons : Caller → Nat
  | sibling => 4
  | importer => 2

def parts (path : List Char) : List String := (split (· == ':') path).map String.ofList

def isPathChar (c : Char) : Bool := isNameChar c || c == ':'

/-- The functions that a text of the caller names. -/
def mentions (k : Caller) (text : String) : List Function :=
  (split (!isPathChar ·) text.toList).filterMap fun path => k.read (parts path)

variable {k : Caller}

/-! ## Text without paths -/

def colons (text : String) : Nat := text.toList.count ':'

theorem colons_append (a b : String) : colons (a ++ b) = colons a + colons b := by
  rw [colons, String.toList_append, List.count_append, colons, colons]

theorem colons_eq_zero {text : String} : colons text = 0 ↔ ':' ∉ text.toList :=
  List.count_eq_zero

theorem length_parts (path : List Char) : (parts path).length = path.count ':' + 1 := by
  rw [parts, List.length_map, length_split]
  rfl

theorem read_eq_none {path : List Char} (h : path.count ':' < k.colons) :
    k.read (parts path) = none := by
  have hlength := length_parts path
  generalize parts path = ps at hlength ⊢
  unfold Caller.read
  split
  · have hfew : path.count ':' < 4 := h
    simp only [List.length_cons, List.length_nil] at hlength
    omega
  · have hfew : path.count ':' < 2 := h
    simp only [List.length_cons, List.length_nil] at hlength
    omega
  · rfl

theorem mentions_eq_nil {text : String} (h : colons text < k.colons) : mentions k text = [] := by
  unfold mentions
  rw [List.filterMap_eq_nil_iff]
  intro path hpath
  apply read_eq_none
  -- A path has no more colons than the text around it.
  have hsub : path.Sublist text.toList := by
    refine (List.sublist_flatten_of_mem hpath).trans ?_
    rw [split_flatten]
    exact List.filter_sublist
  exact Nat.lt_of_le_of_lt (hsub.count_le ':') h

/-! ## Texts side by side -/

/-- No path goes on from the text before into this one. -/
def startsApart (text : String) : Bool := text.toList.head?.any (!isPathChar ·)

/-- No path goes on from this text into the one behind. -/
def endsApart (text : String) : Bool := text.toList.getLast?.any (!isPathChar ·)

theorem mentions_of_startsApart (front : String) {text : String} (h : startsApart text = true) :
    mentions k (front ++ text) = mentions k front ++ mentions k text := by
  unfold startsApart at h
  obtain ⟨c, hhead, hc⟩ := (Option.any_eq_true _ _).mp h
  obtain ⟨rest, htext⟩ := List.head?_eq_some_iff.mp hhead
  have hempty : k.read (parts []) = none := by cases k <;> rfl
  unfold mentions
  rw [String.toList_append, htext, split_append hc, split_cons_of_pos hc, List.filterMap_append,
    List.filterMap_cons, hempty]

theorem mentions_of_endsApart {text : String} (h : endsApart text = true) (rest : String) :
    mentions k (text ++ rest) = mentions k text ++ mentions k rest := by
  unfold endsApart at h
  obtain ⟨c, hlast, hc⟩ := (Option.any_eq_true _ _).mp h
  obtain ⟨front, htext⟩ := List.getLast?_eq_some_iff.mp hlast
  have hempty : k.read (parts []) = none := by cases k <;> rfl
  unfold mentions
  rw [String.toList_append, htext, List.append_assoc, List.singleton_append, split_append hc,
    split_append hc, List.filterMap_append, List.filterMap_append, split_nil]
  simp [hempty]

theorem endsApart_append (front : String) {text : String} (h : endsApart text = true) :
    endsApart (front ++ text) = true := by
  unfold endsApart at h ⊢
  obtain ⟨c, hlast, hc⟩ := (Option.any_eq_true _ _).mp h
  rw [String.toList_append, List.getLast?_append, hlast]
  exact hc

/-- Text that may stand between two others and changes nothing. -/
structure IsGlue (k : Caller) (text : String) : Prop where
  starts : startsApart text = true
  ends : endsApart text = true
  quiet : mentions k text = []

/-- The same in front. -/
structure IsLead (k : Caller) (text : String) : Prop where
  ends : endsApart text = true
  quiet : mentions k text = []

/-- The same at the end. -/
structure IsTrail (k : Caller) (text : String) : Prop where
  starts : startsApart text = true
  quiet : mentions k text = []

theorem mentions_trail (text : String) {trail : String} (h : IsTrail k trail) :
    mentions k (text ++ trail) = mentions k text := by
  rw [mentions_of_startsApart text h.starts, h.quiet, List.append_nil]

theorem mentions_lead {lead : String} (h : IsLead k lead) (text : String) :
    mentions k (lead ++ text) = mentions k text := by
  rw [mentions_of_endsApart h.ends, h.quiet, List.nil_append]

theorem mentions_glue (front : String) {glue : String} (h : IsGlue k glue) (text : String) :
    mentions k (front ++ glue ++ text) = mentions k front ++ mentions k text := by
  have hfront : mentions k (front ++ glue) = mentions k front :=
    mentions_trail front ⟨h.starts, h.quiet⟩
  rw [mentions_of_endsApart (endsApart_append front h.ends), hfront]

/-! ## Paths -/

theorem colon_not_mem {name : String} (h : IsNamed name) : ':' ∉ name.toList := by
  intro hmem
  exact absurd (h ':' hmem) (by decide)

theorem colons_of_isNamed {name : String} (h : IsNamed name) : colons name = 0 :=
  colons_eq_zero.mpr (colon_not_mem h)

theorem ne_colon {name : String} (h : IsNamed name) :
    ∀ c ∈ name.toList, (c == ':') = false := by
  intro c hc
  rw [beq_eq_false_iff_ne]
  rintro rfl
  exact colon_not_mem h hc

theorem parts_name {name : String} (h : IsNamed name) : parts name.toList = [name] := by
  rw [parts, split_of_forall_neg (ne_colon h), List.map_singleton, String.ofList_toList]

theorem parts_append {name : String} (h : IsNamed name) (rest : String) :
    parts (name ++ "::" ++ rest).toList = name :: "" :: parts rest.toList := by
  have htext : (name ++ "::" ++ rest).toList =
      name.toList ++ ':' :: ([] ++ ':' :: rest.toList) := by
    simp
  rw [parts, htext, split_append_cons (ne_colon h) rfl, split_append_cons (by simp) rfl,
    List.map_cons, List.map_cons, String.ofList_toList, ← parts]

/-- Nothing in the text ends a path. -/
def IsPath (text : String) : Prop := ∀ c ∈ text.toList, isPathChar c = true

theorem IsPath.of_isNamed {name : String} (h : IsNamed name) : IsPath name := by
  intro c hc
  rw [isPathChar, h c hc, Bool.true_or]

theorem IsPath.append {a b : String} (ha : IsPath a) (hb : IsPath b) : IsPath (a ++ b) := by
  intro c hc
  rw [String.toList_append, List.mem_append] at hc
  exact hc.elim (ha c) (hb c)

theorem IsPath.colons : IsPath "::" := by
  have hall : "::".toList.all isPathChar = true := by decide
  exact List.all_eq_true.mp hall

theorem mentions_path {path : String} (h : IsPath path) :
    mentions k path = (k.read (parts path.toList)).toList := by
  have hpath : ∀ c ∈ path.toList, (!isPathChar c) = false := by
    intro c hc
    rw [h c hc]
    rfl
  rw [mentions, split_of_forall_neg hpath, List.filterMap_cons]
  cases k.read (parts path.toList) <;> rfl

/-- Neither name breaks a path. -/
def Function.IsNamed (f : Function) : Prop := Text.IsNamed f.module ∧ Text.IsNamed f.name

theorem mentions_sibling {f : Function} (h : f.IsNamed) : mentions .sibling f.sibling = [f] := by
  have hsuper : Text.IsNamed "super" := isNamed_of_isIdentifier (by decide)
  have hpath : f.sibling = "super" ++ "::" ++ (f.module ++ "::" ++ f.name) := by
    simp [Function.sibling, toString, ← String.append_assoc]
  have hwhole : IsPath f.sibling := by
    rw [hpath]
    exact ((IsPath.of_isNamed hsuper).append .colons).append
      (((IsPath.of_isNamed h.1).append .colons).append (.of_isNamed h.2))
  rw [mentions_path hwhole, hpath, parts_append hsuper, parts_append h.1, parts_name h.2]
  rfl

theorem mentions_imported {f : Function} (h : f.IsNamed)
    (hmodule : "_converter".toList <:+ f.module.toList) :
    mentions .importer f.imported = [f] := by
  have hpath : f.imported = f.module ++ "::" ++ f.name := rfl
  have hwhole : IsPath f.imported := by
    rw [hpath]
    exact ((IsPath.of_isNamed h.1).append .colons).append (.of_isNamed h.2)
  rw [mentions_path hwhole, hpath, parts_append h.1, parts_name h.2, Caller.read, if_pos hmodule]
  rfl

/-! ## Expressions -/

/-- The functions that the expression calls, in the order of its text. -/
def Expr.functions : Expr → List Function
  | .field _ | .bound => []
  | .call f e => f :: e.functions
  | .toMillis e | .ofMillis e | .toDouble e | .ofDouble e | .orDefault e => e.functions
  | .mapCall e f => e.functions ++ [f]
  | .mapClosure e body | .mapElements e body | .unlessEmptyThen e body =>
    e.functions ++ body.functions
  | .unlessEmpty e => e.functions ++ e.functions

/-- No name in the expression breaks a path, or makes one. -/
def Expr.Clean : Expr → Prop
  | .field name => ':' ∉ name.toList
  | .bound => True
  | .call f e | .mapCall e f => f.IsNamed ∧ e.Clean
  | .toMillis e | .ofMillis e | .toDouble e | .ofDouble e | .orDefault e | .unlessEmpty e => e.Clean
  | .mapClosure e body | .mapElements e body | .unlessEmptyThen e body => e.Clean ∧ body.Clean

/-- The paths in the code of an expression are its calls. -/
theorem mentions_code {e : Expr} (h : e.Clean) : mentions .sibling e.code = e.functions := by
  have hclose : IsTrail .sibling ")" := ⟨by decide, by decide⟩
  have hnot : IsLead .sibling "(!" := ⟨by decide, by decide⟩
  have hdefault : IsTrail .sibling ").unwrap_or_default()" := ⟨by decide, by decide⟩
  induction e with
  | field name =>
    have hname : mentions .sibling name = [] := by
      apply mentions_eq_nil
      rw [colons_eq_zero.mpr h]
      decide
    have hlead : IsLead .sibling "item." := ⟨by decide, by decide⟩
    unfold Expr.code
    rw [mentions_lead hlead, hname]
    rfl
  | bound => decide
  | call f e ih =>
    have hglue : IsGlue .sibling "(" := ⟨by decide, by decide, by decide⟩
    unfold Expr.code
    rw [mentions_trail _ hclose, mentions_glue _ hglue, mentions_sibling h.1, ih h.2]
    rfl
  | toMillis e ih =>
    have htrail : IsTrail .sibling ".timestamp_millis()" := ⟨by decide, by decide⟩
    unfold Expr.code
    rw [mentions_trail _ htrail, ih h]
    rfl
  | ofMillis e ih =>
    have hlead : IsLead .sibling "chrono::DateTime::<chrono::Utc>::from_timestamp_millis(" :=
      ⟨by decide, by decide⟩
    unfold Expr.code
    rw [mentions_trail _ hdefault, mentions_lead hlead, ih h]
    rfl
  | toDouble e ih =>
    have htrail : IsTrail .sibling ".to_f64().unwrap_or_default()" := ⟨by decide, by decide⟩
    unfold Expr.code
    rw [mentions_trail _ htrail, ih h]
    rfl
  | ofDouble e ih =>
    have hlead : IsLead .sibling "rust_decimal::Decimal::from_f64(" := ⟨by decide, by decide⟩
    unfold Expr.code
    rw [mentions_trail _ hdefault, mentions_lead hlead, ih h]
    rfl
  | orDefault e ih =>
    have htrail : IsTrail .sibling ".unwrap_or_default()" := ⟨by decide, by decide⟩
    unfold Expr.code
    rw [mentions_trail _ htrail, ih h]
    rfl
  | mapCall e f ih =>
    have hglue : IsGlue .sibling ".map(" := ⟨by decide, by decide, by decide⟩
    unfold Expr.code
    rw [mentions_trail _ hclose, mentions_glue _ hglue, mentions_sibling h.1, ih h.2]
    rfl
  | mapClosure e body ih ihbody =>
    have hglue : IsGlue .sibling ".map(|v| " := ⟨by decide, by decide, by decide⟩
    unfold Expr.code
    rw [mentions_trail _ hclose, mentions_glue _ hglue, ih h.1, ihbody h.2]
    rfl
  | mapElements e body ih ihbody =>
    have hglue : IsGlue .sibling ".into_iter().map(|v| " := ⟨by decide, by decide, by decide⟩
    have htrail : IsTrail .sibling ").collect()" := ⟨by decide, by decide⟩
    unfold Expr.code
    rw [mentions_trail _ htrail, mentions_glue _ hglue, ih h.1, ihbody h.2]
    rfl
  | unlessEmpty e ih =>
    have hglue : IsGlue .sibling ".is_empty()).then_some(" := ⟨by decide, by decide, by decide⟩
    unfold Expr.code
    rw [mentions_trail _ hclose, mentions_glue _ hglue, mentions_lead hnot, ih h]
    rfl
  | unlessEmptyThen e body ih ihbody =>
    have hglue : IsGlue .sibling ".is_empty()).then(|| " := ⟨by decide, by decide, by decide⟩
    unfold Expr.code
    rw [mentions_trail _ hclose, mentions_glue _ hglue, mentions_lead hnot, ih h.1, ihbody h.2]
    rfl

example : mentions .sibling "next: item.next.map(super::pong_converter::from_pong)," =
    [⟨"pong_converter", "from_pong"⟩] := by decide

/-! ## The calls of a field -/

theorem isNamed_converterModule (model : String) : IsNamed (Naming.converterModule model) :=
  (isNamed_snakeCase model).append (isNamed_of_isIdentifier (by decide))

theorem function_isNamed (n : Naming) (d : Direction) (list : Bool) (model : String) :
    (function n d list model).IsNamed := by
  have hsuffix : IsNamed "_list" := isNamed_of_isIdentifier (by decide)
  have hfrom : ∀ name, IsNamed ("from_" ++ snakeCase name) := fun name =>
    (isNamed_of_isIdentifier (by decide)).append (isNamed_snakeCase name)
  refine ⟨isNamed_converterModule model, ?_⟩
  cases d with
  | toWire =>
    cases list with
    | false => exact hfrom model
    | true => exact (hfrom model).append hsuffix
  | toDomain =>
    cases list with
    | false => exact hfrom (n.wireMessage model)
    | true => exact (hfrom (n.wireMessage model)).append hsuffix

variable {n : Naming} {d : Direction}

theorem value_clean (c : Crossing) {e : Expr} (he : e.Clean) : (c.value n d e).Clean := by
  cases c with
  | same => exact he
  | timestamp | decimal => cases d <;> exact he
  | message model => cases d <;> exact ⟨function_isNamed n _ false model, he⟩

theorem option_clean (c : Crossing) {e : Expr} (he : e.Clean) : (c.option n d e).Clean := by
  cases c with
  | same => exact he
  | timestamp | decimal => exact ⟨he, value_clean _ trivial⟩
  | message model => exact ⟨function_isNamed n d false model, he⟩

theorem sequence_clean (c : Crossing) {e : Expr} (he : e.Clean) : (c.sequence n d e).Clean := by
  cases c with
  | same => exact he
  | timestamp | decimal => exact ⟨he, value_clean _ trivial⟩
  | message model => exact ⟨function_isNamed n d true model, he⟩

theorem crossing_clean {t : DomainType} {repeats nullable : Bool} {e : Expr} (he : e.Clean) :
    (crossing n d t repeats nullable e).Clean := by
  unfold crossing
  cases repeats with
  | false =>
    cases nullable with
    | false => exact value_clean _ he
    | true => exact option_clean _ he
  | true =>
    cases nullable with
    | false => exact sequence_clean _ he
    | true =>
      cases d with
      | toWire => exact sequence_clean _ he
      | toDomain =>
        simp only
        split_ifs
        · exact he
        · exact ⟨he, sequence_clean _ he⟩

/-- The functions that a crossing calls. -/
def Crossing.calls (n : Naming) (d : Direction) (list : Bool) : Crossing → List Function
  | message model => [function n d list model]
  | _ => []

theorem value_functions (c : Crossing) (e : Expr) :
    (c.value n d e).functions = c.calls n d false ++ e.functions := by
  cases c with
  | same => rfl
  | timestamp | decimal => cases d <;> rfl
  | message model => cases d <;> rfl

theorem option_functions (c : Crossing) {e : Expr} (he : e.functions = []) :
    (c.option n d e).functions = c.calls n d false := by
  cases c with
  | same => exact he
  | timestamp | decimal =>
    have hbody := value_functions (n := n) (d := d)
    simp [Crossing.option, Expr.functions, he, hbody, Crossing.calls]
  | message model => simp [Crossing.option, Expr.functions, he, Crossing.calls]

theorem sequence_functions (c : Crossing) {e : Expr} (he : e.functions = []) :
    (c.sequence n d e).functions = c.calls n d true := by
  cases c with
  | same => exact he
  | timestamp | decimal =>
    have hbody := value_functions (n := n) (d := d)
    simp [Crossing.sequence, Expr.functions, he, hbody, Crossing.calls]
  | message model => simp [Crossing.sequence, Expr.functions, he, Crossing.calls]

/-- One call if the elements are messages, and none otherwise. -/
theorem crossing_functions {t : DomainType} {repeats nullable : Bool} {e : Expr}
    (he : e.functions = []) : (crossing n d t repeats nullable e).functions =
      (Crossing.ofType t).calls n d repeats := by
  unfold crossing
  cases repeats with
  | false =>
    cases nullable with
    | false => simp [value_functions, he]
    | true => exact option_functions _ he
  | true =>
    cases nullable with
    | false => exact sequence_functions _ he
    | true =>
      cases d with
      | toWire => exact sequence_functions _ he
      | toDomain =>
        simp only
        split_ifs with hsame
        · simp [Expr.functions, he, hsame, Crossing.calls]
        · simp [Expr.functions, he, sequence_functions _ he]

theorem mem_functions_iff {field : Message.Field} {f : Function} :
    f ∈ (d.expr n field).functions ↔
      ∃ model, field.elementType = .named model ∧ f = function n d field.repeats model := by
  rw [expr_eq, crossing_functions rfl]
  cases field.elementType <;> simp [Crossing.ofType, Crossing.calls]

end RpcScaffold.Converter
