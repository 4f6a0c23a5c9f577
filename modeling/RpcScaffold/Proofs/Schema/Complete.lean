import RpcScaffold.Proofs.Generation.Check
import RpcScaffold.Proofs.Schema.Blocks
import RpcScaffold.Proofs.Wire.Mapping

/-! # The schema of an accepted registry -/

namespace RpcScaffold

open Text

variable {r : Registry} {n : Naming} {g : ServiceGraph}

/-! ## The messages of a graph -/

namespace Discovers

variable (h : Discovers r n g)
include h

theorem exists_get? {record : ServiceRecord} (hrecord : record ∈ g.records) {name : String}
    (hname : name ∈ record.referencedModels) : ∃ m, g.messages.get? name = some m := by
  have hmem : name ∈ g.messages.names := by
    rw [h.messages, mem_pending, List.mem_flatMap]
    exact ⟨⟨record, hrecord, hname⟩, by simp⟩
  obtain ⟨m, hm, hmn⟩ := List.mem_map.mp hmem
  exact ⟨m, h.built.indexed.get?_eq_some.mpr ⟨hm, hmn⟩⟩

theorem filterMap_get?_names : g.messages.names.filterMap g.messages.get? = g.messages.toList := by
  rw [Catalog.names, List.filterMap_map]
  conv_rhs => rw [← List.filterMap_some (l := g.messages.toList)]
  apply List.filterMap_congr
  intro m hm
  exact h.built.indexed.get?_eq_some.mpr ⟨hm, rfl⟩

/-- What a service needs has a message. -/
theorem wireMessage_mem {name : String} (hname : r.Exposes name) :
    n.wireMessage name ∈ g.messages.toList.map (·.wireName) := by
  obtain ⟨message, hmessage, rfl⟩ := List.mem_map.mp (h.exposes_iff.mpr hname)
  obtain ⟨m, -, hm⟩ := h.exists_model hmessage
  rw [List.mem_map]
  exact ⟨message, hmessage, by rw [hm.wireName, hm.name]⟩

theorem exposes_of_contract {record : ServiceRecord} (hrecord : record ∈ g.records) {c : Contract}
    (hc : c ∈ record.methods) : r.Exposes c.input ∧ r.Exposes c.output := by
  obtain ⟨s, hs, hsr⟩ := exists_left h.records hrecord
  obtain ⟨i, hi, -, hcontracts, -⟩ := hsr.interface
  have hseeds : ∀ name ∈ [c.input, c.output], name ∈ s.seeds := by
    intro name hname
    rw [← seeds_eq hi hcontracts, List.mem_append, List.mem_flatMap]
    exact .inr ⟨c, hc, hname⟩
  exact ⟨⟨s, hs, .seed (hseeds _ (by simp))⟩, ⟨s, hs, .seed (hseeds _ (by simp))⟩⟩

end Discovers

/-! ## Words -/

namespace Settings.Sound

variable {s : Settings} (hs : s.Sound)
include hs

theorem isWord_wireMessage (model : String) : Schema.IsWord (s.naming.wireMessage model) :=
  Schema.isWord_of_isNamed (hs.isNamed_wireMessage model)

theorem isWord_wireService (short : String) : Schema.IsWord (s.naming.wireService short) :=
  Schema.isWord_of_isNamed
    ((isNamed_of_isIdentifier hs.wirePrefix).append (isNamed_upperCamel short))

theorem isWord_wireField (field : String) (isTimestamp : Bool) :
    Schema.IsWord (s.naming.wireField field isTimestamp) :=
  Schema.isWord_of_isNamed (hs.isNamed_wireField field isTimestamp)

theorem isWord_package : Schema.IsWord s.package := by
  have hpackage := hs.package
  rw [Settings.isDotted, List.all_eq_true] at hpackage
  intro c hc
  by_cases hdot : c = '.'
  · rw [hdot]
    decide
  · have hmem : c ∈ (split (· == '.') s.package.toList).flatten := by
      rw [split_flatten, List.mem_filter]
      exact ⟨hc, by simpa using hdot⟩
    obtain ⟨piece, hpiece, hc⟩ := List.mem_flatten.mp hmem
    exact Schema.isWord_of_isNamed (isNamed_of_isIdentifier (hpackage piece hpiece)) c (by simpa)

end Settings.Sound

/-! ## Fields -/

theorem isWord_wireType {s : Settings} (hs : s.Sound) {t : DomainType} {w : WireMapping}
    (h : WireMapping.ofType s.naming t = .ok w) : Schema.IsWord w.type.text := by
  cases hw : w.type with
  | scalar k => cases k <;> decide
  | message name =>
    obtain ⟨model, -, rfl⟩ := referencedModel?_of_message h hw
    exact hs.isWord_wireMessage model

/-! ## Reading the schema -/

namespace Schema

theorem reads_item_message {s : Settings} (hs : s.Sound) (h : Discovers r s.naming g) {m : Message}
    (hm : m ∈ g.messages.toList) :
    (Item.block s.naming (.message m)).Reads (Item.said s.naming (.message m)) := by
  obtain ⟨k, -, hk⟩ := h.exists_model hm
  apply reads_ofMessage
  · rw [hk.wireName]
    exact hs.isWord_wireMessage k.name
  · intro f hf
    obtain ⟨p, -, w, hw, rfl⟩ := exists_left hk.fields hf
    exact ⟨isWord_wireType hs hw, hs.isWord_wireField _ _⟩

theorem reads_item_record {s : Settings} (hs : s.Sound) (record : ServiceRecord) :
    (Item.block s.naming (.record record)).Reads (Item.said s.naming (.record record)) := by
  apply reads_ofRecord
  · exact hs.isWord_wireService record.shortName
  · intro c _
    exact ⟨isWord_of_isNamed (isNamed_upperCamel c.name), hs.isWord_wireMessage c.input,
      hs.isWord_wireMessage c.output⟩

theorem message_items (h : Discovers r n g) :
    (items g [] g.records).filterMap Item.message? = g.messages.toList := by
  rw [filterMap_message_items, ← h.messages, h.filterMap_get?_names]

theorem reads_items {s : Settings} (hs : s.Sound) (h : Discovers r s.naming g) :
    List.Forall₂ Block.Reads ((items g [] g.records).map (Item.block s.naming))
      ((items g [] g.records).map (Item.said s.naming)) := by
  rw [List.forall₂_map_left_iff, List.forall₂_map_right_iff, List.forall₂_same]
  intro i hi
  cases i with
  | record record => exact reads_item_record hs record
  | message m =>
    apply reads_item_message hs h
    rw [← message_items h, List.mem_filterMap]
    exact ⟨_, hi, rfl⟩

/-- The lines name each message of the graph in one block, and every type they use is known. -/
structure Complete (n : Naming) (g : ServiceGraph) (lines : List Line) : Prop where
  messages : lines.filterMap Line.message? = g.messages.toList.map (·.wireName)
  services : lines.filterMap Line.service? = g.records.map fun record =>
    n.wireService record.shortName
  distinct : (lines.filterMap Line.block?).Nodup
  rpcs : lines.filterMap Line.rpc? = g.records.flatMap fun record =>
    record.methods.map fun c => (n.wireMessage c.input, n.wireMessage c.output)
  fields : lines.filterMap Line.field? = g.messages.toList.flatMap fun m =>
    m.fields.map (·.wireType.text)
  rpcTypes : ∀ types ∈ lines.filterMap Line.rpc?,
    types.1 ∈ lines.filterMap Line.message? ∧ types.2 ∈ lines.filterMap Line.message?
  fieldTypes : ∀ type ∈ lines.filterMap Line.field?,
    (∃ k : WireScalar, type = k.text) ∨ type ∈ lines.filterMap Line.message?
  messageTypes : ∀ m ∈ g.messages.toList, ∀ f ∈ m.fields, ∀ name, f.wireType = .message name →
    name ∈ lines.filterMap Line.message?

/-- The schema of a graph. -/
def ofItems (s : Settings) (its : List Item) : Schema := ⟨s.package, its.map (Item.block s.naming)⟩

theorem ofGraph_eq_ok {s : Settings} (h : Discovers r s.naming g) :
    (Schema.ofGraph s g {}).1 = .ok (ofItems s (items g [] g.records)) := by
  have hknown : NewKnown g {} (g.records.flatMap (·.referencedModels)) := by
    intro name hname _
    obtain ⟨record, hrecord, hname⟩ := List.mem_flatMap.mp hname
    exact h.exists_get? hrecord hname
  have hempty : ∀ x, x ∈ ({} : Emitted).names ↔ x ∈ [] := fun _ => Iff.rfl
  have hblocks := (graphBlocks_eq_ok (n := s.naming) hempty).mpr ⟨hknown, rfl, rfl⟩
  rw [ofGraph]
  simp only [hblocks]
  rfl

/-- Nothing is read from the lines that are part of no block. -/
theorem filterMap_read {s : Settings} (hs : s.Sound) (h : Discovers r s.naming g) {β : Type}
    {p : Line → Option β} (hp : p .other = none) :
    (read (ofItems s (items g [] g.records)).render).filterMap p =
      (saidBy s.naming (items g [] g.records)).filterMap p := by
  rw [read_render hs.isWord_package (reads_items hs h), List.filterMap_append,
    List.filterMap_append, List.filterMap_cons_none hp, List.filterMap_nil, List.append_nil]
  have hpreamble : (List.replicate 5 Line.other).filterMap p = [] := by
    rw [List.filterMap_replicate_of_none hp]
  rw [hpreamble, List.nil_append, saidBy, List.flatMap_map]
  induction items g [] g.records with
  | nil => rfl
  | cons i rest ih =>
    rw [List.flatMap_cons, List.flatMap_cons, List.filterMap_append, List.filterMap_append, ih,
      List.filterMap_cons_none hp]

/-- The types of a message are scalars and messages of the graph. -/
theorem mem_wireNames_of_field (h : Discovers r n g) {m : Message} (hm : m ∈ g.messages.toList)
    {f : Message.Field} (hf : f ∈ m.fields) {name : String} (hname : f.wireType = .message name) :
    name ∈ g.messages.toList.map (·.wireName) := by
  obtain ⟨k, hk, hkm⟩ := h.exists_model hm
  obtain ⟨p, hp, w, hw, rfl⟩ := exists_left hkm.fields hf
  obtain ⟨target, htarget, rfl⟩ := referencedModel?_of_message hw hname
  have hexposed : r.Exposes k.name := by
    rw [← hkm.name, ← h.exposes_iff]
    exact List.mem_map_of_mem hm
  obtain ⟨s, hs, hreach⟩ := hexposed
  have hrefers : r.Refers k.name target :=
    ⟨k, hk, rfl, p.1, List.fst_mem_of_mem_zipIdx hp, htarget⟩
  exact h.wireMessage_mem ⟨s, hs, .step hreach hrefers⟩

theorem complete {s : Settings} (hs : s.Sound) (h : Discovers r s.naming g) :
    Complete s.naming g (read (ofItems s (items g [] g.records)).render) := by
  have hrecords : (items g [] g.records).filterMap Item.record? = g.records :=
    filterMap_record_items [] g.records
  generalize hlines : read (ofItems s (items g [] g.records)).render = lines
  have hmessages : lines.filterMap Line.message? = g.messages.toList.map (·.wireName) := by
    rw [← hlines, filterMap_read hs h rfl, filterMap_message_saidBy, message_items h]
  have hservices : lines.filterMap Line.service? = g.records.map fun record =>
      s.naming.wireService record.shortName := by
    rw [← hlines, filterMap_read hs h rfl, filterMap_service_saidBy, hrecords]
  have hrpcs : lines.filterMap Line.rpc? = g.records.flatMap fun record =>
      record.methods.map fun c => (s.naming.wireMessage c.input, s.naming.wireMessage c.output) := by
    rw [← hlines, filterMap_read hs h rfl, filterMap_rpc_saidBy, hrecords]
  have hfields : lines.filterMap Line.field? = g.messages.toList.flatMap fun m =>
      m.fields.map (·.wireType.text) := by
    rw [← hlines, filterMap_read hs h rfl, filterMap_field_saidBy, message_items h]
  refine ⟨hmessages, hservices, ?_, hrpcs, hfields, ?_, ?_, ?_⟩
  · rw [(filterMap_block_perm lines).nodup_iff, hservices, hmessages, List.nodup_append]
    refine ⟨h.distinctServices, h.nodup_wireNames, ?_⟩
    intro service hservice wire hwire heq
    obtain ⟨record, hrecord, rfl⟩ := List.mem_map.mp hservice
    obtain ⟨m, hm, rfl⟩ := List.mem_map.mp hwire
    exact h.services_ne_messages record hrecord m hm heq.symm
  · rw [hrpcs, hmessages]
    intro types htypes
    obtain ⟨record, hrecord, htypes⟩ := List.mem_flatMap.mp htypes
    obtain ⟨c, hc, rfl⟩ := List.mem_map.mp htypes
    obtain ⟨hinput, houtput⟩ := h.exposes_of_contract hrecord hc
    exact ⟨h.wireMessage_mem hinput, h.wireMessage_mem houtput⟩
  · rw [hfields, hmessages]
    intro type htype
    obtain ⟨m, hm, htype⟩ := List.mem_flatMap.mp htype
    obtain ⟨f, hf, rfl⟩ := List.mem_map.mp htype
    cases hw : f.wireType with
    | scalar k => exact .inl ⟨k, rfl⟩
    | message name => exact .inr (mem_wireNames_of_field h hm hf hw)
  · rw [hmessages]
    intro m hm f hf name hname
    exact mem_wireNames_of_field h hm hf hname

end Schema

/-- Each message of an accepted registry has one block in the schema, no two blocks share a name,
and every message type that a line names has its block. -/
theorem schema_complete {r : Registry} {s : Settings} {g : ServiceGraph} (h : check r s = .ok g) :
    ∃ schema, (Schema.ofGraph s g {}).1 = .ok schema ∧
      Schema.Complete s.naming g (Schema.read schema.render) := by
  obtain ⟨hs, hg⟩ := check_eq_ok_iff.mp h
  have hd := discovers_of_ok hg
  exact ⟨_, Schema.ofGraph_eq_ok hd, Schema.complete (Settings.sound_of_check hs) hd⟩

theorem exists_check_pingPong : ∃ g, check (pingPong ["Echo"]) {} = .ok g := by
  obtain ⟨g, hg, -⟩ := exists_discover_pingPong
  exact ⟨g, check_eq_ok_iff.mpr ⟨Settings.check_default, hg⟩⟩

theorem schema_complete_pingPong : ∃ g schema, check (pingPong ["Echo"]) {} = .ok g ∧
    (Schema.ofGraph {} g {}).1 = .ok schema ∧
    Schema.Complete {} g (Schema.read schema.render) := by
  obtain ⟨g, hg⟩ := exists_check_pingPong
  obtain ⟨schema, hschema, hcomplete⟩ := schema_complete hg
  exact ⟨g, schema, hg, hschema, hcomplete⟩

end RpcScaffold
