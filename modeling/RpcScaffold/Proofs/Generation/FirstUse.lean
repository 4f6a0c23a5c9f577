import RpcScaffold.Proofs.Generation.Extension
import RpcScaffold.Proofs.Generation.Inventory

/-!
# The order of the messages

Discovery, the schema and the converters find out on their own which of the referenced models are
new. All three come to the order in which the services first need the models.
-/

namespace RpcScaffold

open Code

/-- The models that the services reference, each where it comes first. -/
def ServiceGraph.firstUses (g : ServiceGraph) : List String :=
  (g.records.flatMap (·.referencedModels)).eraseDups

/-- The messages come in the order of their first uses, each between the service that needs it
first and the next one. -/
structure Schema.FollowsFirstUses (n : Naming) (g : ServiceGraph) (lines : List Line) : Prop where
  services : lines.filterMap Line.service? = g.records.map fun record =>
    n.wireService record.shortName
  messages : lines.filterMap Line.message? = g.firstUses.map n.wireMessage
  distinct : (g.firstUses.map n.wireMessage).Nodup
  blocks : ∀ before wire after, lines = before ++ .message wire :: after →
    ∃ m ∈ g.messages.toList, m.wireName = wire ∧
    ∃ earlier record later, g.records = earlier ++ record :: later ∧
      m.name ∈ record.referencedModels ∧
      (∀ other ∈ earlier, m.name ∉ other.referencedModels) ∧
      before.filterMap Line.service? =
        (earlier ++ [record]).map fun other => n.wireService other.shortName

/-- The graph, the schema and the index of the converters have the messages in one order. -/
structure Generation.FollowsFirstUses (s : Settings) (gen : Generation) : Prop where
  catalog : gen.graph.messages.names = gen.graph.firstUses
  schema : ∃ text, gen.bundle.get? s.layout.schemaFile = some ⟨.schema, text⟩ ∧
    Schema.FollowsFirstUses s.naming gen.graph (Schema.read text)
  converters : ∃ text,
    gen.bundle.get? (indexFile s.layout.convertersDir) = some ⟨.converterIndex, text⟩ ∧
    declaredModules text = gen.graph.firstUses.map Naming.converterModule ∧
    (gen.graph.firstUses.map Naming.converterModule).Nodup

variable {r : Registry} {s : Settings} {n : Naming} {g : ServiceGraph}

theorem Discovers.names_eq_firstUses (h : Discovers r n g) : g.messages.names = g.firstUses := by
  rw [h.messages, pending, ServiceGraph.firstUses]
  simp

theorem Discovers.wireNames_eq_firstUses (h : Discovers r n g) :
    g.messages.toList.map (·.wireName) = g.firstUses.map n.wireMessage := by
  rw [← h.names_eq_firstUses, Catalog.names, List.map_map]
  apply List.map_congr_left
  intro m hm
  obtain ⟨k, -, hk⟩ := h.exists_model hm
  rw [hk.wireName, Function.comp_apply, hk.name]

/-! ## Headings -/

namespace Schema

/-- The lines that start a block. -/
def Line.heading? : Line → Option Line
  | .message name => some (.message name)
  | .service name => some (.service name)
  | _ => none

def Item.heading (n : Naming) : Item → Line
  | record r => .service (n.wireService r.shortName)
  | message m => .message m.wireName

theorem filterMap_heading_saidBy (its : List Item) :
    (saidBy n its).filterMap Line.heading? = its.map (Item.heading n) := by
  induction its with
  | nil => rfl
  | cons i rest ih =>
    rw [saidBy_cons, List.filterMap_append, ih]
    cases i with
    | record r => simp [Item.said, Item.heading, List.filterMap_cons, Line.heading?]
    | message m => simp [Item.said, Item.heading, List.filterMap_cons, Line.heading?]

theorem filterMap_service_heading (lines : List Line) :
    (lines.filterMap Line.heading?).filterMap Line.service? = lines.filterMap Line.service? := by
  rw [List.filterMap_filterMap]
  apply List.filterMap_congr
  rintro (_ | _ | _ | _ | _) _ <;> rfl

theorem filterMap_service_headings (its : List Item) :
    (its.map (Item.heading n)).filterMap Line.service? =
      (its.filterMap Item.record?).map fun record => n.wireService record.shortName := by
  rw [← filterMap_heading_saidBy, filterMap_service_heading, filterMap_service_saidBy]

/-! ## Items -/

theorem messages_eq_append {messages : List Message} {its its' : List Item} {m : Message}
    (h : messages.map Item.message = its ++ .message m :: its') :
    m ∈ messages ∧ its.filterMap Item.record? = [] := by
  obtain ⟨front, back, rfl, rfl, hback⟩ := List.map_eq_append_iff.mp h
  obtain ⟨_, _, rfl, heq, -⟩ := List.map_eq_cons_iff.mp hback
  cases heq
  exact ⟨by simp, filterMap_record_messages front⟩

/-- A message comes after the first record that references it. -/
theorem items_eq_append {its its' : List Item} {m : Message}
    (hnames : ∀ name message, g.messages.get? name = some message → message.name = name)
    {records : List ServiceRecord} {done : List String}
    (h : items g done records = its ++ .message m :: its') :
    m.name ∉ done ∧ ∃ earlier record later, records = earlier ++ record :: later ∧
      m.name ∈ record.referencedModels ∧
      (∀ other ∈ earlier, m.name ∉ other.referencedModels) ∧
      its.filterMap Item.record? = earlier ++ [record] := by
  -- `done` grows by what each record references, so a message that comes now is of none before it.
  induction records generalizing done its with
  | nil => simp [items] at h
  | cons record rest ih =>
    rw [items, List.append_eq_append_iff] at h
    rcases h with ⟨more, rfl, hmore⟩ | ⟨more, hfirst, hmore⟩
    · -- The message comes later than those of this record.
      obtain ⟨hdone, earlier, first, later, rfl, hmem, hearlier, hbefore⟩ := ih hmore
      rw [List.mem_append, not_or] at hdone
      refine ⟨hdone.1, record :: earlier, first, later, rfl, hmem, ?_, ?_⟩
      · exact List.forall_mem_cons.mpr ⟨hdone.2, hearlier⟩
      · rw [List.filterMap_append, List.filterMap_cons, filterMap_record_messages, hbefore]
        rfl
    · cases more with
      | nil =>
        have hrest : items g (done ++ record.referencedModels) rest = [] ++ .message m :: its' :=
          hmore.symm
        obtain ⟨-, earlier, first, -, -, -, -, hbefore⟩ := ih hrest
        simp at hbefore
      | cons i more =>
        obtain ⟨rfl, -⟩ := List.cons.inj hmore
        cases its with
        | nil => simp at hfirst
        | cons i its =>
          -- The message is one of those that this record needs first.
          obtain ⟨rfl, hmessages⟩ := List.cons.inj hfirst
          obtain ⟨hm, hnone⟩ := messages_eq_append hmessages
          obtain ⟨name, hname, hget⟩ := List.mem_filterMap.mp hm
          rw [← hnames name m hget, mem_pending] at hname
          refine ⟨hname.2, [], record, rest, rfl, hname.1, by simp, ?_⟩
          rw [List.filterMap_cons, hnone]
          rfl

theorem followsFirstUses {s : Settings} (hs : s.Sound) (h : Discovers r s.naming g) :
    FollowsFirstUses s.naming g (read (ofItems s (items g [] g.records)).render) := by
  have hcomplete := complete hs h
  refine ⟨hcomplete.services, ?_, ?_, ?_⟩
  · rw [hcomplete.messages, h.wireNames_eq_firstUses]
  · rw [← h.wireNames_eq_firstUses]
    exact h.nodup_wireNames
  · intro before wire after hlines
    have hheadings : (items g [] g.records).map (Item.heading s.naming) =
        before.filterMap Line.heading? ++ .message wire :: after.filterMap Line.heading? := by
      rw [← filterMap_heading_saidBy, ← filterMap_read hs h rfl, hlines, List.filterMap_append,
        List.filterMap_cons]
      rfl
    obtain ⟨its, rest, hitems, hbefore, hrest⟩ := List.map_eq_append_iff.mp hheadings
    obtain ⟨i, its', rfl, hi, -⟩ := List.map_eq_cons_iff.mp hrest
    cases i with
    | record record => cases hi
    | message m =>
      cases hi
      have hm : m ∈ g.messages.toList := by
        rw [← message_items h, hitems, List.mem_filterMap]
        exact ⟨.message m, by simp, rfl⟩
      obtain ⟨-, earlier, record, later, hrecords, hmem, hearlier, hfirst⟩ :=
        items_eq_append (fun name message hget => (h.built.indexed.get?_eq_some.mp hget).2) hitems
      refine ⟨m, hm, rfl, earlier, record, later, hrecords, hmem, hearlier, ?_⟩
      rw [← filterMap_service_heading, ← hbefore, filterMap_service_headings, hfirst]

end Schema

/-- Three walks over the records, each with its own marks, give one order. -/
theorem generate_followsFirstUses {gen : Generation} (h : generate r s = .ok gen) :
    gen.FollowsFirstUses s := by
  have hg := discovers_of_generate h
  have hmodules : gen.graph.converterModules =
      gen.graph.firstUses.map Naming.converterModule := by
    rw [ServiceGraph.converterModules, hg.names_eq_firstUses]
  refine ⟨hg.names_eq_firstUses, ⟨_, get?_schema h, ?_⟩, ⟨_, get?_converterIndex h, ?_, ?_⟩⟩
  · exact Schema.followsFirstUses (Settings.sound_of_check (settings_of_generate h)) hg
  · rw [declaredModules_converterIndex, hmodules]
  · rw [← hmodules]
    exact nodup_converterModules hg

theorem generate_followsFirstUses_pingPongNotes : ∃ gen, generate pingPongNotes {} = .ok gen ∧
    gen.graph.firstUses = ["Ping", "Pong", "Note"] ∧ gen.FollowsFirstUses {} := by
  obtain ⟨gen, hgen, hrecords⟩ := exists_generate_pingPongNotes
  refine ⟨gen, hgen, ?_, generate_followsFirstUses hgen⟩
  rw [ServiceGraph.firstUses, hrecords]
  rfl

end RpcScaffold
