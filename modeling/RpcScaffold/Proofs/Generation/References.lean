import RpcScaffold.Proofs.Generation.Agreement
import RpcScaffold.Proofs.Service.Contents

/-!
# References between generated modules

Converters call each other, and adapters and proxies call converters. They build the names of the
functions on their own. Every name they build is that of a function that is there.
-/

namespace RpcScaffold

open Code Converter Text

/-! ## Offers and calls -/

/-- The type, or that of a list of it. -/
def plural (list : Bool) (type : String) : String := if list then listOf type else type

/-- The module of the function is staged and listed, and defines it from `source` to `target`. -/
structure Offers (s : Settings) (b : Bundle) (f : Converter.Function) (source target : String) :
    Prop where
  defined : ∃ text, b.get? (moduleFile s.layout.convertersDir f.module) = some ⟨.converter, text⟩ ∧
    ∃ param ∈ ["_item", "item", "items"],
      HasLine text (signature f.name param source target ++ " " ++ openBrace)
  listed : ∃ text, b.get? (indexFile s.layout.convertersDir) = some ⟨.converterIndex, text⟩ ∧
    HasLine text ("pub mod " ++ f.module ++ ";")

/-- Every line of the steps stands in the text, and together they name these functions. -/
structure Calls (text : String) (steps : List Step) (functions : List Converter.Function) :
    Prop where
  lines : ∀ line ∈ textsOf steps, HasLine text line
  named : (textsOf steps).flatMap (mentions .importer) = functions

/-- Whatever a generated module calls of a converter is offered with the types it needs. -/
structure ReferencesResolve (s : Settings) (gen : Generation) : Prop where
  converters : ∀ m ∈ gen.graph.messages.toList, ∃ text,
    gen.bundle.get? (converterFile s m.name) = some ⟨.converter, text⟩ ∧
    (∀ f, f ∈ mentions .sibling text ↔ ∃ d, ∃ field ∈ m.fields, ∃ model,
      field.nestedModel? = some model ∧ f = function s.naming d field.repeats model) ∧
    ∀ field ∈ m.fields, ∀ model, field.nestedModel? = some model → ∀ d : Direction,
      Offers s gen.bundle (function s.naming d field.repeats model)
        (plural field.repeats (d.source.pick model field.wireType.text))
        (plural field.repeats (d.target.pick model field.wireType.text))
  adapters : ∀ record ∈ gen.graph.records, ∃ text,
    gen.bundle.get? (adapterFile s record) = some ⟨.adapter, text⟩ ∧
    ∀ c ∈ record.methods,
      let request := function s.naming .toDomain false c.input
      let response := function s.naming .toWire false c.output
      Calls text (Adapter.Method.ofContract s.naming c).steps [request, response] ∧
      Offers s gen.bundle request (s.naming.wireMessage c.input) c.input ∧
      Offers s gen.bundle response c.output (s.naming.wireMessage c.output)
  proxies : ∀ record ∈ gen.graph.records, ∃ text,
    gen.bundle.get? (proxyFile s record) = some ⟨.proxy, text⟩ ∧
    ∀ c ∈ record.methods,
      let request := function s.naming .toWire false c.input
      let response := function s.naming .toDomain false c.output
      Calls text [(Proxy.Method.ofContract s.naming c).step] [request, response] ∧
      Offers s gen.bundle request c.input (s.naming.wireMessage c.input) ∧
      Offers s gen.bundle response (s.naming.wireMessage c.output) c.output

/-! ## Names -/

variable {r : Registry} {s : Settings} {g : ServiceGraph}

namespace Discovers

variable (h : Discovers r s.naming g)
include h

theorem isNamed_of_exposes {name : String} (hname : r.Exposes name) : IsNamed name := by
  obtain ⟨m, hm, rfl⟩ := Registry.mem_names.mp (h.declared hname)
  exact isNamed_of_isIdentifier (h.identifiers m hm)

theorem spelled (hs : s.check = .ok ()) {m : Message} (hm : m ∈ g.messages.toList) :
    Spelled s m := by
  have hsound := Settings.sound_of_check hs
  have hcrates := Settings.crateNames_of_check hs
  obtain ⟨k, hk, hkm⟩ := h.exists_model hm
  constructor
  · rw [hkm.name]
    exact isNamed_of_isIdentifier (h.identifiers k hk)
  · rw [hkm.wireName]
    exact hsound.isNamed_wireMessage k.name
  · intro f hf
    obtain ⟨p, -, hp⟩ := exists_left hkm.fields hf
    rw [hp.wireName_eq]
    exact hsound.isNamed_wireField _ _
  · exact isNamed_of_isIdentifier
      (hcrates ("models_module", s.crates.modelsModule) (by simp [Settings.crateNames]))
  · exact isNamed_of_isIdentifier
      (hcrates ("wire_module", s.crates.wireModule) (by simp [Settings.crateNames]))

end Discovers

/-! ## Definitions -/

theorem newline_not_mem_plural {type : String} (h : IsNamed type) (list : Bool) :
    '\n' ∉ (plural list type).toList := by
  have htype := newline_not_mem h
  cases list with
  | false => exact htype
  | true => simp [plural, listOf, toString, htype]

/-- The heads of the functions of a converter. -/
theorem exists_signature (s : Settings) (m : Message) (d : Direction) (list : Bool) :
    ∃ param ∈ ["_item", "item", "items"], signature (function s.naming d list m.name).name param
      (plural list (d.source.typeName m)) (plural list (d.target.typeName m)) ++ " " ++ openBrace ∈
        textsOf (Module.ofMessage s m).steps := by
  cases list with
  | false =>
    obtain ⟨param, hparam, ending, -, htexts⟩ := ((Module.ofMessage s m).conversion d).texts_eq
    have hstep : ((Module.ofMessage s m).conversion d).step ∈ (Module.ofMessage s m).steps := by
      cases d <;> simp [Module.steps, Module.conversion]
    refine ⟨param, List.mem_append_left ["items"] hparam, mem_textsOf hstep ?_⟩
    rw [htexts, conversion_name, conversion_source, conversion_target]
    exact List.mem_cons_self
  | true =>
    have hstep : ((Module.ofMessage s m).listConversion d).step ∈ (Module.ofMessage s m).steps := by
      cases d <;> simp [Module.steps, Module.listConversion]
    refine ⟨"items", by simp, mem_textsOf hstep ?_⟩
    rw [ListConversion.texts_eq, listConversion_name, listConversion_source, listConversion_target]
    exact List.mem_cons_self

theorem areWhole_converter (m : Converter.Module) : areWhole m.steps = true := by
  rw [Module.steps_eq, areWhole, areWhole_of_arePlain m.body_isPlain]
  rfl

theorem areWhole_index (modules : List String) : areWhole (indexSteps modules) = true := by
  have hmodules : areWhole (modules.map moduleLine) = true := areWhole_lines _ modules
  exact areWhole_append.mpr ⟨rfl, hmodules⟩

theorem hasLine_index {messages : List Message} {m : Message} (hm : m ∈ messages) :
    HasLine (renderIndex messages) ("pub mod " ++ Naming.converterModule m.name ++ ";") := by
  have hmodule := newline_not_mem (isNamed_converterModule m.name)
  have hstep : moduleLine (Naming.converterModule m.name) ∈
      indexSteps (messages.map fun m => Naming.converterModule m.name) := by
    unfold indexSteps
    exact List.mem_append_right _ (List.mem_map_of_mem (List.mem_map_of_mem hm))
  apply hasLine_render (areWhole_index _)
  · exact mem_textsOf hstep (List.mem_singleton.mpr rfl)
  · simp [hmodule]

/-- The functions that a converter names are those of its nested fields. -/
theorem mem_mentions_iff {m : Message} (hspelled : Spelled s m)
    (hmapped : ∀ field ∈ m.fields, field.Mapped s.naming) {f : Converter.Function} :
    f ∈ mentions .sibling (Module.ofMessage s m).render ↔ ∃ d, ∃ field ∈ m.fields, ∃ model,
      field.nestedModel? = some model ∧ f = function s.naming d field.repeats model := by
  rw [siblings_render hspelled]
  simp only [List.mem_flatMap, mem_functions_iff]
  constructor
  · rintro ⟨d, -, field, hfield, model, hmodel, hf⟩
    exact ⟨d, field, hfield, model, (hmapped field hfield).nestedModel?_eq_some.mpr hmodel, hf⟩
  · rintro ⟨d, field, hfield, model, hmodel, hf⟩
    refine ⟨d, ?_, field, hfield, model, ?_, hf⟩
    · cases d <;> simp
    · exact (hmapped field hfield).nestedModel?_eq_some.mp hmodel

/-! ## Runs -/

section Runs

variable {gen : Generation} (h : generate r s = .ok gen)
include h

/-- All four functions of a message are offered, with its names as types. -/
theorem offers_message {m : Message} (hm : m ∈ gen.graph.messages.toList) (d : Direction)
    (list : Bool) : Offers s gen.bundle (function s.naming d list m.name)
      (plural list (d.source.typeName m)) (plural list (d.target.typeName m)) := by
  have hspelled := (discovers_of_generate h).spelled (settings_of_generate h) hm
  obtain ⟨param, hparam, hline⟩ := exists_signature s m d list
  have hone : ∀ p ∈ ["_item", "item", "items"], '\n' ∉ p.toList := by decide
  constructor
  · refine ⟨_, get?_converter h hm, param, hparam, ?_⟩
    apply hasLine_render (areWhole_converter _) hline
    exact newline_not_mem_signature (function_isNamed s.naming d list m.name).2 (hone param hparam)
      (newline_not_mem_plural (hspelled.typeName d.source) list)
      (newline_not_mem_plural (hspelled.typeName d.target) list)
  · exact ⟨_, get?_converterIndex h, hasLine_index hm⟩

theorem offers_model {model : String} (hmodel : model ∈ gen.graph.messages.names) (d : Direction)
    (list : Bool) : Offers s gen.bundle (function s.naming d list model)
      (plural list (d.source.pick model (s.naming.wireMessage model)))
      (plural list (d.target.pick model (s.naming.wireMessage model))) := by
  obtain ⟨m, hm, rfl⟩ := List.mem_map.mp hmodel
  have hg := discovers_of_generate h
  obtain ⟨k, -, hkm⟩ := hg.exists_model hm
  have hpick : ∀ side : Side, side.pick m.name (s.naming.wireMessage m.name) = side.typeName m := by
    intro side
    cases side with
    | domain => rfl
    | wire => rw [Side.typeName, hkm.wireName, hkm.name, Side.pick]
  rw [hpick, hpick]
  exact offers_message h hm d list

theorem calls_adapter {record : ServiceRecord} {c : Contract} (hc : c ∈ record.methods) :
    Calls (Adapter.ofRecord s record).render (Adapter.Method.ofContract s.naming c).steps
      [function s.naming .toDomain false c.input, function s.naming .toWire false c.output] := by
  have hsound := Settings.sound_of_check (settings_of_generate h)
  have hinput := hsound.isNamed_wireMessage c.input
  have houtput := hsound.isNamed_wireMessage c.output
  constructor
  · intro line hline
    apply hasLine_render (Adapter.areWhole_steps _) (Adapter.texts_subset s hc hline)
    exact Adapter.Method.newline_not_mem_texts hinput houtput line hline
  · exact Adapter.Method.mentions_texts hinput houtput

theorem calls_proxy {record : ServiceRecord} (hrecord : record ∈ gen.graph.records) {c : Contract}
    (hc : c ∈ record.methods) :
    Calls (Proxy.ofRecord s record).render [(Proxy.Method.ofContract s.naming c).step]
      [function s.naming .toWire false c.input, function s.naming .toDomain false c.output] := by
  have hg := discovers_of_generate h
  obtain ⟨hin, hout⟩ := hg.exposes_of_contract hrecord hc
  have hinput := hg.isNamed_of_exposes hin
  have houtput := hg.isNamed_of_exposes hout
  constructor
  · intro line hline
    apply hasLine_render (Proxy.areWhole_steps _) (Proxy.texts_subset s hc hline)
    exact Proxy.Method.newline_not_mem_texts hinput houtput line hline
  · exact Proxy.Method.mentions_texts hinput houtput

end Runs

/-- Generated modules refer to each other by names that are there. -/
theorem references_resolve {gen : Generation} (h : generate r s = .ok gen) :
    ReferencesResolve s gen := by
  have hg := discovers_of_generate h
  have hmethods : ∀ record ∈ gen.graph.records, ∀ c ∈ record.methods,
      c.input ∈ gen.graph.messages.names ∧ c.output ∈ gen.graph.messages.names := by
    intro record hrecord c hc
    obtain ⟨hin, hout⟩ := hg.exposes_of_contract hrecord hc
    exact ⟨hg.exposes_iff.mpr hin, hg.exposes_iff.mpr hout⟩
  constructor
  · intro m hm
    have hmapped : ∀ field ∈ m.fields, field.Mapped s.naming := by
      obtain ⟨k, -, hok⟩ := hg.built.ofModel m hm
      exact fun field hfield => mapped_of_ofModel hok hfield
    refine ⟨_, get?_converter h hm, ?_, ?_⟩
    · intro f
      exact mem_mentions_iff (hg.spelled (settings_of_generate h) hm) hmapped
    · intro field hfield model hmodel d
      have htype := (hmapped field hfield).nestedModel?_eq_some.mp hmodel
      have hwire : field.wireType.text = s.naming.wireMessage model := by
        rw [(hmapped field hfield).wireType_of_named htype, WireType.text]
      rw [hwire]
      exact offers_model h (hg.mem_names_of_named hm hfield htype) d field.repeats
  · intro record hrecord
    refine ⟨_, get?_adapter h hrecord, ?_⟩
    intro c hc
    obtain ⟨hin, hout⟩ := hmethods record hrecord c hc
    exact ⟨calls_adapter h hc, offers_model h hin .toDomain false,
      offers_model h hout .toWire false⟩
  · intro record hrecord
    refine ⟨_, get?_proxy h hrecord, ?_⟩
    intro c hc
    obtain ⟨hin, hout⟩ := hmethods record hrecord c hc
    exact ⟨calls_proxy h hrecord hc, offers_model h hin .toWire false,
      offers_model h hout .toDomain false⟩

theorem references_resolve_pingPong : ∃ gen, generate (pingPong ["Echo"]) {} = .ok gen ∧
    gen.graph.messages.toList = [pingMessage, pongMessage] ∧ ReferencesResolve {} gen := by
  obtain ⟨gen, hgen, -, hmessages⟩ := exists_generate_pingPong
  exact ⟨gen, hgen, hmessages, references_resolve hgen⟩

end RpcScaffold
