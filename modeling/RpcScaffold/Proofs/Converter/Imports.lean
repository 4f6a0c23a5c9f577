import RpcScaffold.Proofs.Converter.Lossy
import RpcScaffold.Proofs.Service.Contents

/-!
# The imports of a converter module

A converter imports its two types, and the conversions of decimals exactly if it needs them.
-/

namespace RpcScaffold

open Code Text

/-! ## Lines of a text -/

/-- The line imports something. Lines in a block are indented, so they never do. -/
def isImport (line : List Char) : Bool := "use ".toList.isPrefixOf line

/-- The imports of a file of code. -/
def imports (text : String) : List String :=
  ((split (· == '\n') text.toList).filter isImport).map String.ofList

theorem imports_printed {lines : List String} (h : ∀ line ∈ lines, '\n' ∉ line.toList) :
    imports (printed lines) = lines.filter fun line => isImport line.toList := by
  rw [imports, split_printed h, List.filter_append, List.filter_map, List.map_append, List.map_map]
  simp [Function.comp_def, isImport]

namespace Code

mutual

/-- A line is blank, or it is a text or a brace of the step behind some indentation. -/
theorem lines_cases (s : Step) {level : Nat} {line : String} (h : line ∈ s.lines level) :
    line = "" ∨ ∃ inner text, level ≤ inner ∧ text ∈ openBrace :: closeBrace :: s.texts ∧
      line = indentation inner ++ text := by
  cases s with
  | line s =>
    have hline : line = indentation level ++ s := by simpa [Step.lines] using h
    exact .inr ⟨level, s, Nat.le_refl _, by simp [Step.texts], hline⟩
  | blank =>
    have hline : line = "" := by simpa [Step.lines] using h
    exact .inl hline
  | block header body =>
    simp only [Step.lines, List.cons_append, List.mem_cons, List.mem_append, List.not_mem_nil,
      or_false] at h
    rcases h with rfl | h | rfl
    · exact .inr ⟨level, _, Nat.le_refl _, by simp [Step.texts], rfl⟩
    · rcases linesOf_cases body h with rfl | ⟨inner, text, hinner, htext, rfl⟩
      · exact .inl rfl
      · refine .inr ⟨inner, text, by omega, ?_, rfl⟩
        simp only [Step.texts, List.mem_cons] at htext ⊢
        tauto
    · exact .inr ⟨level, _, Nat.le_refl _, by simp, rfl⟩
  | braced body =>
    simp only [Step.lines, List.cons_append, List.mem_cons, List.mem_append, List.not_mem_nil,
      or_false] at h
    rcases h with rfl | h | rfl
    · exact .inr ⟨level, _, Nat.le_refl _, by simp, rfl⟩
    · rcases linesOf_cases body h with rfl | ⟨inner, text, hinner, htext, rfl⟩
      · exact .inl rfl
      · exact .inr ⟨inner, text, by omega, htext, rfl⟩
    · exact .inr ⟨level, _, Nat.le_refl _, by simp, rfl⟩
  | _ => simp [Step.lines] at h

theorem linesOf_cases (steps : List Step) {level : Nat} {line : String}
    (h : line ∈ linesOf level steps) :
    line = "" ∨ ∃ inner text, level ≤ inner ∧ text ∈ openBrace :: closeBrace :: textsOf steps ∧
      line = indentation inner ++ text := by
  cases steps with
  | nil => simp [linesOf] at h
  | cons s rest =>
    rw [linesOf, List.mem_append] at h
    rw [textsOf]
    rcases h with h | h
    · rcases lines_cases s h with rfl | ⟨inner, text, hinner, htext, rfl⟩
      · exact .inl rfl
      · refine .inr ⟨inner, text, hinner, ?_, rfl⟩
        simp only [List.mem_cons, List.mem_append] at htext ⊢
        tauto
    · rcases linesOf_cases rest h with rfl | ⟨inner, text, hinner, htext, rfl⟩
      · exact .inl rfl
      · refine .inr ⟨inner, text, hinner, ?_, rfl⟩
        simp only [List.mem_cons, List.mem_append] at htext ⊢
        tauto

end

theorem newline_not_mem_linesOf {steps : List Step} (h : ∀ text ∈ textsOf steps, '\n' ∉ text.toList)
    {level : Nat} {line : String} (hline : line ∈ linesOf level steps) : '\n' ∉ line.toList := by
  rcases linesOf_cases steps hline with rfl | ⟨inner, text, -, htext, rfl⟩
  · simp
  · have hindented : '\n' ∉ text.toList → '\n' ∉ (indentation inner ++ text).toList := by
      intro hnot
      simp [newline_not_mem_indentation, hnot]
    apply hindented
    simp only [List.mem_cons] at htext
    rcases htext with rfl | rfl | htext
    · decide
    · decide
    · exact h text htext

/-- The body of a block is indented. -/
theorem isImport_of_inner {steps : List Step} {level : Nat} {line : String}
    (hline : line ∈ linesOf (level + 1) steps) : isImport line.toList = false := by
  rcases linesOf_cases steps hline with rfl | ⟨inner, text, hinner, -, rfl⟩
  · decide
  · obtain ⟨inner, rfl⟩ : ∃ i, inner = i + 1 := ⟨inner - 1, by omega⟩
    simp only [isImport, indentation, Nat.mul_add, List.replicate_succ, String.toList_append,
      String.toList_ofList]
    rfl

/-- The imports that a plain step writes at the left margin. -/
def Step.imports (s : Step) : List String := (s.lines 0).filter fun line => isImport line.toList

theorem imports_linesOf (steps : List Step) :
    ((linesOf 0 steps).filter fun line => isImport line.toList) = steps.flatMap Step.imports := by
  rw [linesOf_eq, List.filter_flatMap]
  rfl

/-- A block that is no import itself holds none. -/
theorem imports_block {header : String} {body : List Step}
    (hheader : isImport (header ++ " " ++ openBrace).toList = false) :
    (Step.block header body).imports = [] := by
  rw [Step.imports, List.filter_eq_nil_iff]
  intro line hline
  have hzero : indentation 0 = "" := rfl
  simp only [Step.lines, hzero, String.empty_append, List.cons_append, List.mem_cons,
    List.mem_append, List.not_mem_nil, or_false] at hline
  rcases hline with rfl | hline | rfl
  · exact Bool.eq_false_iff.mp hheader
  · exact Bool.eq_false_iff.mp (isImport_of_inner hline)
  · decide

end Code

namespace Converter

/-! ## Lines of a module -/

variable {n : Naming} {d : Direction} {e : Expr}

theorem newline_not_mem_code (he : e.Clean) (hreads : ∀ name ∈ e.accessed, '\n' ∉ name.toList) :
    '\n' ∉ e.code.toList := by
  have hsibling : ∀ {f : Function}, f.IsNamed → '\n' ∉ f.sibling.toList := by
    intro f hf
    simp [Function.sibling, toString, newline_not_mem hf.1, newline_not_mem hf.2]
  induction e with
  | field name =>
    have hname := hreads name (by simp [Expr.accessed])
    unfold Expr.code
    simp [hname]
  | bound =>
    unfold Expr.code
    decide
  | call f e ih | mapCall e f ih =>
    unfold Expr.code
    simp [hsibling he.1, ih he.2 hreads]
  | toMillis e ih | ofMillis e ih | toDouble e ih | ofDouble e ih | orDefault e ih
  | unlessEmpty e ih =>
    unfold Expr.code
    simp [ih he hreads]
  | mapClosure e body ih ihbody | mapElements e body ih ihbody | unlessEmptyThen e body ih ihbody =>
    obtain ⟨hfirst, hrest⟩ := List.forall_mem_append.mp hreads
    unfold Expr.code
    simp [ih he.1 hfirst, ihbody he.2 hrest]

theorem newline_not_mem_side {f : Message.Field} (h : IsNamed f.wireName) (side : Side) :
    '\n' ∉ (side.ident f).toList := by
  cases side with
  | domain => exact not_mem_rawIdent (isNamed_snakeCase f.name) (by decide) (by decide)
  | wire => exact not_mem_rawIdent h (by decide) (by decide)

theorem newline_not_mem_member {f : Message.Field} (h : IsNamed f.wireName) (d : Direction) :
    '\n' ∉ (d.target.ident f ++ ": " ++ (d.expr n f).code ++ ",").toList := by
  have hmember := newline_not_mem_side h d.target
  have hcode : '\n' ∉ (d.expr n f).code.toList := by
    apply newline_not_mem_code (expr_clean h)
    intro name hname
    rw [mem_accessed_expr.mp hname]
    exact newline_not_mem_side h d.source
  simp [hmember, hcode]

theorem newline_not_mem_conversion {s : Settings} {m : Message} (h : Spelled s m) (d : Direction) :
    ∀ text ∈ ((Module.ofMessage s m).conversion d).step.texts, '\n' ∉ text.toList := by
  obtain ⟨param, hparam, ending, hending, htexts⟩ := ((Module.ofMessage s m).conversion d).texts_eq
  have hname := (function_isNamed s.naming d false m.name).2
  have hsource := newline_not_mem (h.typeName d.source)
  have htarget := newline_not_mem (h.typeName d.target)
  have hparams : ∀ p ∈ ["_item", "item"], '\n' ∉ p.toList := by decide
  have hendings : ∀ e ∈ ["", closeBrace], '\n' ∉ e.toList := by decide
  have hopen : '\n' ∉ openBrace.toList := by decide
  rw [htexts, conversion_name, conversion_source, conversion_target, conversion_fields,
    List.forall_mem_cons, List.forall_mem_cons, List.map_map, List.forall_mem_map]
  refine ⟨?_, ?_, ?_⟩
  · exact newline_not_mem_signature hname (hparams param hparam) hsource htarget
  · simp [htarget, hopen, hendings ending hending]
  · intro f hf
    exact newline_not_mem_member (h.fields f hf) d

theorem newline_not_mem_listConversion {s : Settings} {m : Message} (h : Spelled s m)
    (d : Direction) :
    ∀ text ∈ ((Module.ofMessage s m).listConversion d).step.texts, '\n' ∉ text.toList := by
  have hname := (function_isNamed s.naming d true m.name).2
  have helement := newline_not_mem (function_isNamed s.naming d false m.name).2
  have hlist : ∀ side : Side, '\n' ∉ (listOf (side.typeName m)).toList := by
    intro side
    simp [listOf, toString, newline_not_mem (h.typeName side)]
  rw [ListConversion.texts_eq, listConversion_name, listConversion_source, listConversion_target,
    listConversion_element, List.forall_mem_cons, List.forall_mem_singleton]
  refine ⟨newline_not_mem_signature hname (by decide) (hlist _) (hlist _), ?_⟩
  simp [toString, helement]

theorem newline_not_mem_from {source target function : String} (hsource : IsNamed source)
    (htarget : IsNamed target) (hfunction : IsNamed function) :
    ∀ text ∈ (fromStep source target function).texts, '\n' ∉ text.toList := by
  have hopen : '\n' ∉ openBrace.toList := by decide
  simp [fromStep, Step.texts, textsOf, toString, newline_not_mem hsource, newline_not_mem htarget,
    newline_not_mem hfunction, hopen]

theorem newline_not_mem_import {module type : String} (hmodule : IsNamed module)
    (htype : IsNamed type) :
    ∀ text ∈ (importOf s!"crate::{module}::{type}").texts, '\n' ∉ text.toList := by
  simp [importOf, Step.texts, toString, newline_not_mem hmodule, newline_not_mem htype]

/-! ## Imports of a module -/

theorem newline_not_mem_body {s : Settings} {m : Message} (h : Spelled s m) :
    ∀ text ∈ textsOf (Module.ofMessage s m).body, '\n' ∉ text.toList := by
  have hfunction : ∀ d, IsNamed ((Module.ofMessage s m).conversion d).name := by
    intro d
    rw [conversion_name]
    exact (function_isNamed s.naming d false m.name).2
  have hdecimal : ∀ text ∈ textsOf (if (Module.ofMessage s m).usesDecimal then decimalImport
      else []), '\n' ∉ text.toList := by
    split_ifs
    · decide
    · simp [textsOf]
  have hforth := newline_not_mem_conversion h .toWire
  have hback := newline_not_mem_conversion h .toDomain
  have hforthList := newline_not_mem_listConversion h .toWire
  have hbackList := newline_not_mem_listConversion h .toDomain
  have hforthFrom := newline_not_mem_from h.name h.wireName (hfunction .toWire)
  have hbackFrom := newline_not_mem_from h.wireName h.name (hfunction .toDomain)
  have hmodels := newline_not_mem_import h.models h.name
  have hwires := newline_not_mem_import h.wire h.wireName
  have hblank : ∀ text ∈ Step.blank.texts, '\n' ∉ text.toList := by simp [Step.texts]
  unfold Module.conversion at hforth hback hforthFrom hbackFrom
  unfold Module.listConversion at hforthList hbackList
  rw [textsOf_eq] at hdecimal ⊢
  simp only [Module.body, List.flatMap_append, List.flatMap_cons, List.flatMap_nil,
    List.forall_mem_append, List.append_nil]
  exact ⟨⟨hblank, hdecimal⟩, hmodels, hwires, hblank, hforth, hblank, hback, hblank, hforthList,
    hblank, hbackList, hblank, hforthFrom, hblank, hbackFrom⟩

theorem newline_not_mem_head {s : Settings} {m : Message} (h : Spelled s m) :
    ∀ line ∈ (Module.ofMessage s m).head, '\n' ∉ line.toList := by
  have hnotice : '\n' ∉ notice.toList := by decide
  simp [Module.head, Module.ofMessage, newline_not_mem h.name, newline_not_mem h.wireName, hnotice]

/-- The import of what converts decimals. -/
def decimalLine : String :=
  "use rust_decimal::prelude::" ++ inBraces "FromPrimitive, ToPrimitive" ++ ";"

/-- Apart from its two types a module imports nothing but what converts decimals. -/
theorem imports_render {s : Settings} {m : Message} (h : Spelled s m) :
    imports (Module.ofMessage s m).render =
      (if m.hasFieldOf .decimal then [decimalLine] else []) ++
      ["use " ++ s!"crate::{s.crates.modelsModule}::{m.name}" ++ ";",
        "use " ++ s!"crate::{s.crates.wireModule}::{m.wireName}" ++ ";"] := by
  have hhead : (Module.ofMessage s m).head.filter (fun line => isImport line.toList) = [] := by
    simp [Module.head, isImport]
  have hblank : Step.blank.imports = [] := by decide
  have hconversion : ∀ c : Conversion, c.step.imports = [] := by
    intro c
    apply imports_block
    simp [isImport, List.isPrefixOf, toString]
  have hlist : ∀ c : ListConversion, c.step.imports = [] := by
    intro c
    apply imports_block
    simp [isImport, List.isPrefixOf, toString]
  have hfrom : ∀ source target function, (fromStep source target function).imports = [] := by
    intro source target function
    apply imports_block
    simp [isImport, List.isPrefixOf, toString]
  have himport : ∀ path : String, (importOf path).imports = ["use " ++ path ++ ";"] := by
    intro path
    have hzero : indentation 0 = "" := rfl
    simp [Step.imports, importOf, Step.lines, isImport, hzero]
  have hdecimal : (if (Module.ofMessage s m).usesDecimal then decimalImport else []).flatMap
      Step.imports = if m.hasFieldOf .decimal then [decimalLine] else [] := by
    change (if m.hasFieldOf .decimal then decimalImport else []).flatMap _ = _
    split_ifs
    · decide
    · rfl
  have hlines : ∀ line ∈ (Module.ofMessage s m).head ++ linesOf 0 (Module.ofMessage s m).body,
      '\n' ∉ line.toList := by
    rw [List.forall_mem_append]
    exact ⟨newline_not_mem_head h, fun line => newline_not_mem_linesOf (newline_not_mem_body h)⟩
  rw [render_eq h, imports_printed hlines, List.filter_append, hhead, imports_linesOf]
  simp only [Module.body, List.flatMap_append, List.flatMap_cons, List.flatMap_nil, hblank,
    hconversion, hlist, hfrom, himport, hdecimal, List.nil_append, List.append_nil]
  rfl

/-- The import stands in the module exactly if an expression of the module converts decimals. -/
theorem decimalLine_mem_imports {s : Settings} {m : Message} (h : Spelled s m) :
    decimalLine ∈ imports (Module.ofMessage s m).render ↔
      (Module.ofMessage s m).Converts .decimal := by
  have hother : ∀ module type : String,
      decimalLine ≠ "use " ++ s!"crate::{module}::{type}" ++ ";" := by
    intro module type heq
    have hours : decimalLine.toList[4]? = some 'r' := by decide
    have hfifth := congrArg (fun line => line.toList[4]?) heq
    simp [hours, toString] at hfifth
  rw [imports_render h, ← usesDecimal_iff]
  change _ ↔ m.hasFieldOf .decimal = true
  simp only [List.mem_append, List.mem_pair, hother, or_false]
  cases m.hasFieldOf .decimal with
  | false => simp
  | true => simp

end Converter

end RpcScaffold
