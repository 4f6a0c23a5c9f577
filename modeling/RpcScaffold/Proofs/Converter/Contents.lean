import RpcScaffold.Proofs.Code.Contents
import RpcScaffold.Proofs.Converter.Paths
import RpcScaffold.Proofs.Converter.Values

/-!
# The paths in a converter module

The text of a converter module names the functions that its fields call, and no other.
-/

namespace RpcScaffold.Converter

open Code Text

variable {n : Naming} {d : Direction}

/-! ## Lines -/

theorem siblings_printed (lines : List String) :
    mentions .sibling (printed lines) = lines.flatMap (mentions .sibling) := by
  have hnewline : IsGlue .sibling "\n" := ⟨by decide, by decide, by decide⟩
  induction lines with
  | nil => rfl
  | cons line rest ih =>
    have htext : printed (line :: rest) = line ++ "\n" ++ printed rest := rfl
    rw [htext, mentions_glue _ hnewline, ih, List.flatMap_cons]

theorem siblings_indented (level : Nat) (line : String) :
    mentions .sibling (indentation level ++ line) = mentions .sibling line := by
  -- At level 0 nothing ends the text before, but nothing is put before the line either.
  cases level with
  | zero => rw [show indentation 0 = "" from rfl, String.empty_append]
  | succ level =>
    apply mentions_lead
    constructor
    · have hspace : isPathChar ' ' = false := by decide
      simp [endsApart, indentation, Nat.mul_add, List.replicate_succ', hspace]
    · apply mentions_eq_nil
      simp [colons, indentation, List.count_replicate, Caller.colons]

mutual

/-- Indentation, blank lines and closing braces hold no path. -/
theorem siblings_step {s : Step} (h : s.isPlain = true) (level : Nat) :
    (s.lines level).flatMap (mentions .sibling) = s.texts.flatMap (mentions .sibling) := by
  have hclose : mentions .sibling (indentation level ++ closeBrace) = [] := by
    rw [siblings_indented]
    decide
  cases s with
  | line s => simp [Step.lines, Step.texts, siblings_indented]
  | blank =>
    have hempty : mentions .sibling "" = [] := by decide
    simp [Step.lines, Step.texts, hempty]
  | block header body =>
    have hbody : (linesOf (level + 1) body).flatMap (mentions .sibling) =
        (textsOf body).flatMap (mentions .sibling) := siblings_steps h (level + 1)
    simp [Step.lines, Step.texts, siblings_indented, hbody, hclose]
  | braced body =>
    have hopen : mentions .sibling openBrace = [] := by decide
    have hbody : (linesOf (level + 1) body).flatMap (mentions .sibling) =
        (textsOf body).flatMap (mentions .sibling) := siblings_steps h (level + 1)
    simp [Step.lines, Step.texts, siblings_indented, hbody, hclose, hopen]
  | _ => simp [Step.isPlain] at h

theorem siblings_steps {steps : List Step} (h : arePlain steps = true) (level : Nat) :
    (linesOf level steps).flatMap (mentions .sibling) =
      (textsOf steps).flatMap (mentions .sibling) := by
  cases steps with
  | nil => rfl
  | cons s rest =>
    rw [arePlain, Bool.and_eq_true] at h
    rw [linesOf, textsOf, List.flatMap_append, List.flatMap_append, siblings_step h.1,
      siblings_steps h.2]

end

/-- The names that stand in the converter of the message. -/
structure Spelled (s : Settings) (m : Message) : Prop where
  name : IsNamed m.name
  wireName : IsNamed m.wireName
  fields : ∀ f ∈ m.fields, IsNamed f.wireName
  models : IsNamed s.crates.modelsModule
  wire : IsNamed s.crates.wireModule

/-- A keyword is marked with `r#`. -/
theorem not_mem_rawIdent {name : String} (h : IsNamed name) {c : Char}
    (hc : isNameChar c = false) (hmark : c ≠ '#') : c ∉ (rawIdent name).toList := by
  have hname : c ∉ name.toList := by
    intro hmem
    rw [h c hmem] at hc
    cases hc
  have hr : c ≠ 'r' := by
    rintro rfl
    exact absurd hc (by decide)
  unfold rawIdent
  split_ifs
  · simp [hname, hr, hmark]
  · exact hname

theorem colon_not_mem_rawIdent {name : String} (h : IsNamed name) :
    ':' ∉ (rawIdent name).toList :=
  not_mem_rawIdent h (by decide) (by decide)

theorem siblings_field {ident : String} (hident : ':' ∉ ident.toList) {e : Expr} (he : e.Clean) :
    mentions .sibling (ident ++ ": " ++ e.code ++ ",") = e.functions := by
  have hcomma : IsTrail .sibling "," := ⟨by decide, by decide⟩
  have hlead : IsLead .sibling (ident ++ ": ") := by
    constructor
    · exact endsApart_append ident (by decide)
    · apply mentions_eq_nil
      rw [colons_append, colons_eq_zero.mpr hident]
      decide
  rw [mentions_trail _ hcomma, mentions_lead hlead, mentions_code he]

/-- The head of a function of one parameter. -/
def signature (name param source target : String) : String :=
  s!"pub fn {name}({param}: {source}) -> {target}"

theorem siblings_signature {name param source target : String} (hname : IsNamed name)
    (hparam : IsNamed param) (hsource : colons source = 0) (htarget : colons target = 0) :
    mentions .sibling (signature name param source target ++ " " ++ openBrace) = [] := by
  apply mentions_eq_nil
  unfold signature
  simp only [toString, colons_append, colons_of_isNamed hname, colons_of_isNamed hparam, hsource,
    htarget]
  decide

theorem Conversion.texts_eq (c : Conversion) :
    ∃ param ∈ ["_item", "item"], ∃ ending ∈ ["", closeBrace], c.step.texts =
      (signature c.name param c.source c.target ++ " " ++ openBrace) ::
      (c.target ++ " " ++ openBrace ++ ending) ::
      c.fields.map fun f => f.1 ++ ": " ++ f.2.code ++ "," := by
  cases hempty : c.fields with
  | nil =>
    refine ⟨"_item", by simp, closeBrace, by simp, ?_⟩
    simp [Conversion.step, hempty, literal, Step.texts, textsOf, signature]
  | cons first rest =>
    refine ⟨"item", by simp, "", by simp, ?_⟩
    simp [Conversion.step, hempty, literal, Step.texts, textsOf, textsOf_eq, List.flatMap_map,
      ← List.map_eq_flatMap, signature]

/-- A conversion names the functions that its fields call. -/
theorem siblings_conversion {c : Conversion} (hname : IsNamed c.name) (hsource : IsNamed c.source)
    (htarget : IsNamed c.target) (hfields : ∀ f ∈ c.fields, ':' ∉ f.1.toList ∧ f.2.Clean) :
    c.step.texts.flatMap (mentions .sibling) = c.fields.flatMap (·.2.functions) := by
  obtain ⟨param, hparam, ending, hending, htexts⟩ := c.texts_eq
  have hnamed : ∀ p ∈ ["_item", "item"], IsNamed p := by
    intro p hp
    apply isNamed_of_isIdentifier
    revert p
    decide
  have hcount : ∀ e ∈ ["", closeBrace], colons e = 0 := by decide
  have hheader : mentions .sibling
      (signature c.name param c.source c.target ++ " " ++ openBrace) = [] :=
    siblings_signature hname (hnamed param hparam) (colons_of_isNamed hsource)
      (colons_of_isNamed htarget)
  have hliteral : mentions .sibling (c.target ++ " " ++ openBrace ++ ending) = [] := by
    apply mentions_eq_nil
    rw [colons_append, colons_append, colons_append, colons_of_isNamed htarget,
      hcount ending hending]
    decide
  have hlines : ∀ f ∈ c.fields,
      mentions .sibling (f.1 ++ ": " ++ f.2.code ++ ",") = f.2.functions := by
    intro f hf
    exact siblings_field (hfields f hf).1 (hfields f hf).2
  rw [htexts, List.flatMap_cons, List.flatMap_cons, hheader, hliteral, List.flatMap_map]
  exact List.flatMap_congr hlines

/-- The type of a list with elements of that type. -/
def listOf (type : String) : String := s!"Vec<{type}>"

theorem ListConversion.texts_eq (c : ListConversion) : c.step.texts =
    [signature c.name "items" (listOf c.source) (listOf c.target) ++ " " ++ openBrace,
      s!"items.into_iter().map({c.element}).collect()"] := by
  have hheader : s!"pub fn {c.name}(items: Vec<{c.source}>) -> Vec<{c.target}>" =
      signature c.name "items" (listOf c.source) (listOf c.target) := by
    rw [← String.toList_inj]
    simp [signature, listOf, toString]
  unfold ListConversion.step
  rw [hheader]
  rfl

theorem siblings_listConversion {c : ListConversion} (hname : IsNamed c.name)
    (hsource : IsNamed c.source) (htarget : IsNamed c.target) (helement : IsNamed c.element) :
    c.step.texts.flatMap (mentions .sibling) = [] := by
  have hlist : ∀ {type : String}, IsNamed type → colons (listOf type) = 0 := by
    intro type htype
    simp only [listOf, toString, colons_append, colons_of_isNamed htype]
    decide
  have hitems : IsNamed "items" := isNamed_of_isIdentifier (by decide)
  have hheader := siblings_signature hname hitems (hlist hsource) (hlist htarget)
  have hbody : mentions .sibling s!"items.into_iter().map({c.element}).collect()" = [] := by
    apply mentions_eq_nil
    simp only [toString, colons_append, colons_of_isNamed helement]
    decide
  simp only [ListConversion.texts_eq, List.flatMap_cons, List.flatMap_nil, hheader, hbody,
    List.append_nil]

theorem siblings_from {source target function : String} (hsource : IsNamed source)
    (htarget : IsNamed target) (hfunction : IsNamed function) :
    (fromStep source target function).texts.flatMap (mentions .sibling) = [] := by
  have hheader :
      mentions .sibling (s!"impl From<{source}> for {target}" ++ " " ++ openBrace) = [] := by
    apply mentions_eq_nil
    simp only [toString, colons_append, colons_of_isNamed hsource, colons_of_isNamed htarget]
    decide
  have hinner :
      mentions .sibling (s!"fn from(item: {source}) -> Self" ++ " " ++ openBrace) = [] := by
    apply mentions_eq_nil
    simp only [toString, colons_append, colons_of_isNamed hsource]
    decide
  have hbody : mentions .sibling s!"{function}(item)" = [] := by
    apply mentions_eq_nil
    simp only [toString, colons_append, colons_of_isNamed hfunction]
    decide
  simp [fromStep, Step.texts, textsOf, hheader, hinner, hbody]

/-- A path from the root of the crate leads to no sibling. -/
theorem siblings_import {module type : String} (hmodule : IsNamed module) (htype : IsNamed type) :
    (importOf s!"crate::{module}::{type}").texts.flatMap (mentions .sibling) = [] := by
  have huse : IsLead .sibling "use " := ⟨by decide, by decide⟩
  have hend : IsTrail .sibling ";" := ⟨by decide, by decide⟩
  have hcrate : IsNamed "crate" := isNamed_of_isIdentifier (by decide)
  have hpath : s!"crate::{module}::{type}" = "crate" ++ "::" ++ (module ++ "::" ++ type) := by
    simp [toString, ← String.append_assoc]
  have hwhole : IsPath s!"crate::{module}::{type}" := by
    rw [hpath]
    exact ((IsPath.of_isNamed hcrate).append .colons).append
      (((IsPath.of_isNamed hmodule).append .colons).append (.of_isNamed htype))
  have hquiet : mentions .sibling s!"crate::{module}::{type}" = [] := by
    rw [mentions_path hwhole, hpath, parts_append hcrate, parts_append hmodule, parts_name htype]
    rfl
  generalize s!"crate::{module}::{type}" = path at hquiet
  simp [importOf, Step.texts, mentions_trail _ hend, mentions_lead huse, hquiet]

theorem colon_not_mem_ident {f : Message.Field} (h : IsNamed f.wireName) (side : Side) :
    ':' ∉ (side.ident f).toList := by
  have hdomain := colon_not_mem_rawIdent (isNamed_snakeCase f.name)
  have hwire := colon_not_mem_rawIdent h
  cases side with
  | domain => exact hdomain
  | wire => exact hwire

theorem expr_clean {f : Message.Field} (h : IsNamed f.wireName) : (d.expr n f).Clean := by
  rw [expr_eq]
  exact crossing_clean (colon_not_mem_ident h d.source)

/-! ## The text of a module -/

theorem conversion_isPlain (c : Conversion) : c.step.isPlain = true := by
  have hcomma : isBlankText "," = false := by decide
  have hbrace : isBlankText closeBrace = false := by decide
  have hline : ∀ f : String × Expr,
      Step.isPlain (.line (f.1 ++ ": " ++ f.2.code ++ ",")) = true := by
    intro f
    simp [Step.isPlain, isBlankText_append, hcomma]
  unfold Conversion.step literal
  split_ifs
  · simp [Step.isPlain, arePlain, isBlankText_append, hbrace]
  · have hlines :
        arePlain (c.fields.map fun f => .line (f.1 ++ ": " ++ f.2.code ++ ",")) = true := by
      rw [arePlain_iff, List.forall_mem_map]
      exact fun f _ => hline f
    simp [Step.isPlain, arePlain, hlines]

theorem listConversion_isPlain (c : ListConversion) : c.step.isPlain = true := by
  have hend : isBlankText ").collect()" = false := by decide
  simp [ListConversion.step, Step.isPlain, arePlain, toString, isBlankText_append, hend]

theorem from_isPlain (source target function : String) :
    (fromStep source target function).isPlain = true := by
  have hend : isBlankText "(item)" = false := by decide
  simp [fromStep, Step.isPlain, arePlain, toString, isBlankText_append, hend]

theorem import_isPlain (path : String) : (importOf path).isPlain = true := by
  have hend : isBlankText ";" = false := by decide
  simp [importOf, Step.isPlain, isBlankText_append, hend]

/-- All steps but the documentation at the head. -/
def Module.body (m : Module) : List Step :=
  .blank :: (if m.usesDecimal then decimalImport else [])
  ++ [importOf s!"crate::{m.modelsModule}::{m.domain}",
    importOf s!"crate::{m.wireModule}::{m.wire}", .blank,
    m.toWire.step, .blank,
    m.toDomain.step, .blank,
    m.toWireList.step, .blank,
    m.toDomainList.step, .blank,
    fromStep m.domain m.wire m.toWire.name, .blank,
    fromStep m.wire m.domain m.toDomain.name]

theorem Module.steps_eq (m : Module) : m.steps =
    fileDoc ("Converters between `" ++ m.domain ++ "` and `" ++ m.wire ++ "`.") :: m.body := rfl

theorem Module.body_isPlain (m : Module) : arePlain m.body = true := by
  have hblank : Step.isPlain .blank = true := rfl
  unfold Module.body decimalImport
  split_ifs <;> simp [arePlain, hblank, import_isPlain, conversion_isPlain, listConversion_isPlain,
    from_isPlain]

theorem Spelled.typeName {s : Settings} {m : Message} (h : Spelled s m) (side : Side) :
    IsNamed (side.typeName m) := by
  cases side with
  | domain => exact h.name
  | wire => exact h.wireName

theorem conversion_siblings {s : Settings} {m : Message} (h : Spelled s m) (d : Direction) :
    ((Module.ofMessage s m).conversion d).step.texts.flatMap (mentions .sibling) =
      m.fields.flatMap fun f => (d.expr s.naming f).functions := by
  rw [siblings_conversion, conversion_fields, List.flatMap_map]
  · rw [conversion_name]
    exact (function_isNamed s.naming d false m.name).2
  · rw [conversion_source]
    exact h.typeName d.source
  · rw [conversion_target]
    exact h.typeName d.target
  · rw [conversion_fields, List.forall_mem_map]
    intro f hf
    exact ⟨colon_not_mem_ident (h.fields f hf) d.target, expr_clean (h.fields f hf)⟩

theorem listConversion_siblings {s : Settings} {m : Message} (h : Spelled s m) (d : Direction) :
    ((Module.ofMessage s m).listConversion d).step.texts.flatMap (mentions .sibling) = [] := by
  apply siblings_listConversion
  · rw [listConversion_name]
    exact (function_isNamed s.naming d true m.name).2
  · rw [listConversion_source]
    exact h.typeName d.source
  · rw [listConversion_target]
    exact h.typeName d.target
  · rw [listConversion_element]
    exact (function_isNamed s.naming d false m.name).2

theorem body_siblings {s : Settings} {m : Message} (h : Spelled s m) :
    (textsOf (Module.ofMessage s m).body).flatMap (mentions .sibling) =
      [Direction.toWire, .toDomain].flatMap fun d =>
        m.fields.flatMap fun f => (d.expr s.naming f).functions := by
  have hfunction : ∀ d, IsNamed ((Module.ofMessage s m).conversion d).name := by
    intro d
    rw [conversion_name]
    exact (function_isNamed s.naming d false m.name).2
  have hdecimal : (textsOf (if (Module.ofMessage s m).usesDecimal then decimalImport
      else [])).flatMap (mentions .sibling) = [] := by
    split_ifs
    · decide
    · rfl
  -- From here on the parts of the module are just names.
  generalize hmodule : Module.ofMessage s m = module at hfunction hdecimal
  have hdomain : IsNamed module.domain := by
    rw [← hmodule]
    exact h.name
  have hwire : IsNamed module.wire := by
    rw [← hmodule]
    exact h.wireName
  have hmodels : IsNamed module.modelsModule := by
    rw [← hmodule]
    exact h.models
  have hwires : IsNamed module.wireModule := by
    rw [← hmodule]
    exact h.wire
  have hforth := conversion_siblings h .toWire
  have hback := conversion_siblings h .toDomain
  have hforthList := listConversion_siblings h .toWire
  have hbackList := listConversion_siblings h .toDomain
  rw [hmodule] at hforth hback hforthList hbackList
  have hforthFrom := siblings_from hdomain hwire (hfunction .toWire)
  have hbackFrom := siblings_from hwire hdomain (hfunction .toDomain)
  have hblank : Step.blank.texts.flatMap (mentions .sibling) = [] := rfl
  unfold Module.conversion at hforth hback hforthFrom hbackFrom
  unfold Module.listConversion at hforthList hbackList
  rw [textsOf_eq, List.flatMap_assoc] at hdecimal ⊢
  simp only [Module.body, List.flatMap_append, List.flatMap_cons, List.flatMap_nil, hblank,
    hdecimal, siblings_import hmodels hdomain, siblings_import hwires hwire, hforth, hback,
    hforthList, hbackList, hforthFrom, hbackFrom, List.nil_append]

/-- What stands above the code of a module. -/
def Module.head (m : Module) : List String :=
  ["//! " ++ ("Converters between `" ++ m.domain ++ "` and `" ++ m.wire ++ "`."), "//!",
    "//! " ++ notice]

theorem render_eq {s : Settings} {m : Message} (h : Spelled s m) : (Module.ofMessage s m).render =
    printed ((Module.ofMessage s m).head ++ linesOf 0 (Module.ofMessage s m).body) := by
  have hnewline : ∀ {name : String}, IsNamed name → '\n' ∉ name.toList := fun hname hmem =>
    absurd (hname '\n' hmem) (by decide)
  have hreturn : ∀ {name : String}, IsNamed name → '\r' ∉ name.toList := fun hname hmem =>
    absurd (hname '\r' hmem) (by decide)
  rw [Module.render, Module.steps_eq]
  apply render_fileDoc
  · simp
  · simp [Module.ofMessage, hnewline h.name, hnewline h.wireName]
  · simp [Module.ofMessage, hreturn h.name, hreturn h.wireName]
  · exact Module.body_isPlain _

/-- The paths in the text of a converter are the calls of its fields, first to the wire and then to
the domain. -/
theorem siblings_render {s : Settings} {m : Message} (h : Spelled s m) :
    mentions .sibling (Module.ofMessage s m).render = [Direction.toWire, .toDomain].flatMap fun d =>
      m.fields.flatMap fun f => (d.expr s.naming f).functions := by
  have hhead : (Module.ofMessage s m).head.flatMap (mentions .sibling) = [] := by
    have hsummary : mentions .sibling
        ("//! " ++ ("Converters between `" ++ m.name ++ "` and `" ++ m.wireName ++ "`.")) = [] := by
      apply mentions_eq_nil
      simp only [colons_append, colons_of_isNamed h.name, colons_of_isNamed h.wireName]
      decide
    have hrest : ["//!", "//! " ++ notice].flatMap (mentions .sibling) = [] := by decide
    rw [Module.head, List.flatMap_cons, hrest, List.append_nil]
    exact hsummary
  rw [render_eq h, siblings_printed, List.flatMap_append, siblings_steps (Module.body_isPlain _),
    hhead, body_siblings h, List.nil_append]

end RpcScaffold.Converter
