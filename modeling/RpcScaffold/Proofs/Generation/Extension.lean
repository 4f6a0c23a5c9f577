import RpcScaffold.Proofs.Discovery.Extension
import RpcScaffold.Proofs.Generation.References

/-!
# Generating again with more declarations

Declarations are appended to a registry that was generated from before. Every message keeps its tags
and every converter, adapter and proxy its text, and the schema only grows.
-/

namespace RpcScaffold

open Code Converter

/-! ## What is kept -/

/-- The second text at the path goes on where the first one ends. -/
def Bundle.Grows (b b' : Bundle) (path : String) (kind : ArtifactKind) : Prop :=
  ∃ text more, b.get? path = some ⟨kind, text⟩ ∧ b'.get? path = some ⟨kind, text ++ more⟩

/-- What the second generation keeps of the first. -/
structure Generation.KeptBy (s : Settings) (gen gen' : Generation) : Prop where
  records : gen.graph.records <+: gen'.graph.records
  messages : gen.graph.messages.toList <+: gen'.graph.messages.toList
  schema : gen.bundle.Grows gen'.bundle s.layout.schemaFile .schema
  converterIndex :
    gen.bundle.Grows gen'.bundle (indexFile s.layout.convertersDir) .converterIndex
  artifacts : ∀ kind ∈ [.converter, .adapter, .proxy], ∀ path text,
    gen.bundle.get? path = some ⟨kind, text⟩ → gen'.bundle.get? path = some ⟨kind, text⟩

variable {r r' : Registry} {s : Settings} {g g' : ServiceGraph}

/-! ## The schema -/

namespace Schema

theorem items_append (done : List String) (as bs : List ServiceRecord) :
    items g done (as ++ bs) =
      items g done as ++ items g (done ++ as.flatMap (·.referencedModels)) bs := by
  induction as generalizing done with
  | nil => simp [items]
  | cons record rest ih =>
    simp only [List.cons_append, items, ih, List.flatMap_cons, List.append_assoc]

/-- Items depend on the messages of the records and on no other. -/
theorem items_congr {records : List ServiceRecord} (h : ∀ record ∈ records,
    ∀ name ∈ record.referencedModels, g.messages.get? name = g'.messages.get? name)
    (done : List String) : items g done records = items g' done records := by
  induction records generalizing done with
  | nil => rfl
  | cons record rest ih =>
    rw [List.forall_mem_cons] at h
    have hmessages : (pending done record.referencedModels).filterMap g.messages.get? =
        (pending done record.referencedModels).filterMap g'.messages.get? := by
      apply List.filterMap_congr
      intro name hname
      exact h.1 name (mem_pending.mp hname).1
    rw [items, items, hmessages, ih h.2]

theorem items_extend (hg : Discovers r s.naming g) (hg' : Discovers r' s.naming g')
    (h : r.Extends r') : items g [] g.records <+: items g' [] g'.records := by
  obtain ⟨more, hmore⟩ := hg.records_extend hg' h
  -- The second graph has more messages, but the first records list none of those.
  have hsame : items g [] g.records = items g' [] g.records := by
    apply items_congr
    intro record hrecord name hname
    obtain ⟨m, hm⟩ := hg.exists_get? hrecord hname
    rw [hm, hg.get?_extend hg' h hm]
  rw [hsame, ← hmore, items_append]
  exact List.prefix_append _ _

theorem areWhole_block (b : Block) : areWhole [.blank, b.step] = true := by
  cases b with
  | service name rpcs => simp [Block.step, areWhole, Step.isWhole, areWhole_lines Rpc.line]
  | message name fields => simp [Block.step, areWhole, Step.isWhole, areWhole_lines Field.line]

theorem areWhole_blocks (blocks : List Block) :
    areWhole (blocks.flatMap fun b => [.blank, b.step]) = true := by
  induction blocks with
  | nil => rfl
  | cons b rest ih => exact areWhole_append.mpr ⟨areWhole_block b, ih⟩

theorem render_append (s : Schema) (more : List Block) :
    ∃ text, ({ s with blocks := s.blocks ++ more } : Schema).render = s.render ++ text := by
  have hsteps : ({ s with blocks := s.blocks ++ more } : Schema).steps =
      s.steps ++ more.flatMap fun b => [.blank, b.step] := by
    simp only [steps, List.flatMap_append, List.append_assoc]
  have hwhole : areWhole s.steps = true := areWhole_append.mpr ⟨rfl, areWhole_blocks s.blocks⟩
  rw [Schema.render, hsteps]
  exact Code.render_append hwhole (areWhole_blocks more)

end Schema

/-! ## The index of the converters -/

theorem renderIndex_append (as bs : List Message) :
    ∃ text, renderIndex (as ++ bs) = renderIndex as ++ text := by
  have hsteps : indexSteps ((as ++ bs).map fun m => Naming.converterModule m.name) =
      indexSteps (as.map fun m => Naming.converterModule m.name) ++
        bs.map fun m => moduleLine (Naming.converterModule m.name) := by
    simp [indexSteps]
  have hmore : areWhole (bs.map fun m => moduleLine (Naming.converterModule m.name)) = true :=
    areWhole_lines _ bs
  rw [renderIndex, hsteps]
  exact Code.render_append (areWhole_index _) hmore

/-! ## Artifacts -/

theorem artifacts_extend (hmessages : g.messages.toList <+: g'.messages.toList)
    (hrecords : g.records <+: g'.records) {kind : ArtifactKind}
    (hkind : kind ∈ [.converter, .adapter, .proxy]) {path text : String}
    (h : (path, ⟨kind, text⟩) ∈ artifactsOf s g) : (path, ⟨kind, text⟩) ∈ artifactsOf s g' := by
  rw [mem_artifactsOf_iff hkind] at h ⊢
  rcases h with ⟨m, hm, heq⟩ | ⟨record, hrecord, heq⟩ | ⟨record, hrecord, heq⟩
  · exact .inl ⟨m, hmessages.subset hm, heq⟩
  · exact .inr (.inl ⟨record, hrecords.subset hrecord, heq⟩)
  · exact .inr (.inr ⟨record, hrecords.subset hrecord, heq⟩)

/-- More declarations disturb nothing that was generated before. -/
theorem generate_extends {gen gen' : Generation} (hext : r.Extends r') (h : generate r s = .ok gen)
    (h' : generate r' s = .ok gen') : gen.KeptBy s gen' := by
  have hg := discovers_of_generate h
  have hg' := discovers_of_generate h'
  have hrecords := hg.records_extend hg' hext
  have hmessages := hg.messages_extend hg' hext
  refine ⟨hrecords, hmessages, ?_, ?_, ?_⟩
  · obtain ⟨more, hmore⟩ := Schema.items_extend hg hg' hext
    obtain ⟨text, htext⟩ := Schema.render_append
      (Schema.ofItems s (Schema.items gen.graph [] gen.graph.records))
      (more.map (Schema.Item.block s.naming))
    refine ⟨_, text, get?_schema h, ?_⟩
    rw [get?_schema h', ← hmore, ← htext, Schema.ofItems, List.map_append]
    rfl
  · obtain ⟨more, hmore⟩ := hmessages
    obtain ⟨text, htext⟩ := renderIndex_append gen.graph.messages.toList more
    refine ⟨_, text, get?_converterIndex h, ?_⟩
    rw [get?_converterIndex h', ← hmore, htext]
  · intro kind hkind path text hstaged
    rw [get?_of_generate h] at hstaged
    rw [get?_of_generate h']
    exact artifacts_extend hmessages hrecords hkind hstaged

/-- One model and one service more, which refer to what was there before. -/
def pingPongNotes : Registry where
  models := (pingPong ["Echo"]).models ++ [
    { name := "Note", fields := [{ name := "about", type := .list (.named "Pong") }] }]
  services := (pingPong ["Echo"]).services ++ [{
    name := "MemoService"
    interfaces := [{ name := "Notes", methods := [
      { name := "put", params := [.named "Note"], returns := .async (.named "Ping") }] }] }]

def memoRecord : ServiceRecord where
  serviceName := "MemoService"
  shortName := "Memo"
  interfaceName := "Notes"
  methods := [{ name := "put", input := "Note", output := "Ping" }]
  referencedModels := ["Note", "Ping", "Pong"]

theorem serviceRecords_pingPongNotes :
    serviceRecords pingPongNotes {} [] pingPongNotes.markedServices =
      .ok [echoRecord "Echo", memoRecord] := by
  have hr : pingPongNotes.names.Nodup := by decide
  have hnames : ∀ name ∈ ["Ping", "Note"], name ∈ pingPongNotes.names := by decide
  have hping := hnames "Ping" (by simp)
  have hnote := hnames "Note" (by simp)
  have hecho : Finds pingPongNotes ["Ping", "Ping"] ["Ping", "Pong"] :=
    finds_of_run hr (by decide) rfl
  have hnotes : Finds pingPongNotes ["Note", "Ping"] ["Note", "Ping", "Pong"] :=
    finds_of_run hr (by decide) rfl
  rw [serviceRecords_eq_ok hr]
  constructor
  · refine .cons ?_ (.cons ?_ .nil)
    · exact ⟨rfl, ⟨by decide, rfl⟩, ⟨_, rfl, rfl, .cons ⟨rfl, rfl, rfl, hping, hping⟩ .nil,
        List.nodup_singleton _⟩, hecho⟩
    · exact ⟨rfl, ⟨by decide, rfl⟩, ⟨_, rfl, rfl, .cons ⟨rfl, rfl, rfl, hnote, hping⟩ .nil,
        List.nodup_singleton _⟩, hnotes⟩
  · rw [List.map_nil, free_of_nil]
    decide

theorem exists_generate_pingPongNotes : ∃ gen, generate pingPongNotes {} = .ok gen ∧
    gen.graph.records = [echoRecord "Echo", memoRecord] := by
  obtain ⟨g, hg, hrecords⟩ : ∃ g, discover pingPongNotes {} = .ok g ∧
      g.records = [echoRecord "Echo", memoRecord] := by
    apply exists_discover_of_records
    rw [discover, serviceRecords_pingPongNotes]
    decide +kernel
  have hadapters : (g.adapterModules {}).Nodup := by
    rw [ServiceGraph.adapterModules, hrecords]
    decide +kernel
  have hproxies : g.proxyModules.Nodup := by
    rw [ServiceGraph.proxyModules, hrecords]
    decide +kernel
  obtain ⟨gen, hgen, rfl⟩ := exists_generate_of_discover hg hadapters hproxies
  exact ⟨gen, hgen, hrecords⟩

theorem generate_extends_pingPong : ∃ gen gen', generate (pingPong ["Echo"]) {} = .ok gen ∧
    generate pingPongNotes {} = .ok gen' ∧ gen'.graph.messages.names = ["Ping", "Pong", "Note"] ∧
    gen.KeptBy {} gen' := by
  obtain ⟨gen, hgen, -⟩ := exists_generate_pingPong
  obtain ⟨gen', hgen', hrecords⟩ := exists_generate_pingPongNotes
  have hext : (pingPong ["Echo"]).Extends pingPongNotes := by
    constructor
    · exact List.prefix_append _ _
    · exact List.prefix_append _ _
  refine ⟨gen, gen', hgen, hgen', ?_, generate_extends hext hgen hgen'⟩
  rw [(discovers_of_generate hgen').messages, hrecords]
  rfl

end RpcScaffold
