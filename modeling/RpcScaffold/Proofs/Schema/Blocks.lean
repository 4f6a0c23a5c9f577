import RpcScaffold.Proofs.Discovery.Reach
import RpcScaffold.Proofs.Schema.Read

/-! # The blocks of a graph -/

namespace RpcScaffold.Schema

/-! ## What stands in a schema -/

inductive Item
  | record (r : ServiceRecord)
  | message (m : Message)

namespace Item

def record? : Item → Option ServiceRecord
  | record r => some r
  | message _ => none

def message? : Item → Option Message
  | record _ => none
  | message m => some m

def block (n : Naming) : Item → Block
  | record r => .ofRecord n r
  | message m => .ofMessage m

/-- The lines of the block, and the last one that closes it. -/
def said (n : Naming) : Item → List Line
  | record r => .service (n.wireService r.shortName) ::
      r.methods.map (fun c => .rpc (n.wireMessage c.input) (n.wireMessage c.output)) ++ [.other]
  | message m => .message m.wireName :: m.fields.map (fun f => .field f.wireType.text) ++ [.other]

end Item

/-- Each service, then those of its messages that are not done. -/
def items (g : ServiceGraph) (done : List String) : List ServiceRecord → List Item
  | [] => []
  | r :: rest =>
    .record r :: ((pending done r.referencedModels).filterMap g.messages.get?).map .message
      ++ items g (done ++ r.referencedModels) rest

variable {g : ServiceGraph}

theorem filterMap_record_messages (messages : List Message) :
    (messages.map Item.message).filterMap Item.record? = [] := by
  rw [List.filterMap_map, List.filterMap_eq_nil_iff]
  intro _ _
  rfl

theorem filterMap_record_items (done : List String) (records : List ServiceRecord) :
    (items g done records).filterMap Item.record? = records := by
  induction records generalizing done with
  | nil => rfl
  | cons r rest ih =>
    rw [items, List.filterMap_append, List.filterMap_cons, filterMap_record_messages, ih]
    rfl

theorem filterMap_message_items (done : List String) (records : List ServiceRecord) :
    (items g done records).filterMap Item.message? =
      (pending done (records.flatMap (·.referencedModels))).filterMap g.messages.get? := by
  induction records generalizing done with
  | nil => rfl
  | cons r rest ih =>
    have hsome : Item.message? ∘ Item.message = some := rfl
    rw [items, List.filterMap_append, List.filterMap_cons, List.filterMap_map, hsome,
      List.filterMap_some, ih, List.flatMap_cons, pending_append, List.filterMap_append]
    rfl

/-! ## What the items say -/

/-- The lines of the items without those that are part of no block. -/
def saidBy (n : Naming) (items : List Item) : List Line := items.flatMap (·.said n)

variable {n : Naming} {its : List Item}

theorem saidBy_cons (i : Item) : saidBy n (i :: its) = i.said n ++ saidBy n its := rfl

/-- What only records say. -/
theorem filterMap_saidBy_record {β : Type} {p : Line → Option β} {f : ServiceRecord → List β}
    (hrecord : ∀ r, ((Item.record r).said n).filterMap p = f r)
    (hmessage : ∀ m, ((Item.message m).said n).filterMap p = []) :
    (saidBy n its).filterMap p = (its.filterMap Item.record?).flatMap f := by
  induction its with
  | nil => rfl
  | cons i rest ih =>
    rw [saidBy_cons, List.filterMap_append, ih]
    cases i with
    | record r =>
      rw [hrecord]
      rfl
    | message m =>
      rw [hmessage]
      rfl

/-- What only messages say. -/
theorem filterMap_saidBy_message {β : Type} {p : Line → Option β} {f : Message → List β}
    (hrecord : ∀ r, ((Item.record r).said n).filterMap p = [])
    (hmessage : ∀ m, ((Item.message m).said n).filterMap p = f m) :
    (saidBy n its).filterMap p = (its.filterMap Item.message?).flatMap f := by
  induction its with
  | nil => rfl
  | cons i rest ih =>
    rw [saidBy_cons, List.filterMap_append, ih]
    cases i with
    | record r =>
      rw [hrecord]
      rfl
    | message m =>
      rw [hmessage]
      rfl

theorem filterMap_service_saidBy : (saidBy n its).filterMap Line.service? =
    (its.filterMap Item.record?).map fun r => n.wireService r.shortName := by
  rw [List.map_eq_flatMap]
  apply filterMap_saidBy_record
  · intro r
    simp [Item.said, List.filterMap_cons, Line.service?]
  · intro m
    simp [Item.said, List.filterMap_cons, Line.service?]

theorem filterMap_message_saidBy : (saidBy n its).filterMap Line.message? =
    (its.filterMap Item.message?).map (·.wireName) := by
  rw [List.map_eq_flatMap]
  apply filterMap_saidBy_message
  · intro r
    simp [Item.said, List.filterMap_cons, Line.message?]
  · intro m
    simp [Item.said, List.filterMap_cons, Line.message?]

theorem filterMap_rpc_saidBy : (saidBy n its).filterMap Line.rpc? =
    (its.filterMap Item.record?).flatMap fun r =>
      r.methods.map fun c => (n.wireMessage c.input, n.wireMessage c.output) := by
  apply filterMap_saidBy_record
  · intro r
    simp [Item.said, List.filterMap_cons, Line.rpc?, Function.comp_def]
  · intro m
    simp [Item.said, List.filterMap_cons, Line.rpc?]

theorem filterMap_field_saidBy : (saidBy n its).filterMap Line.field? =
    (its.filterMap Item.message?).flatMap fun m => m.fields.map (·.wireType.text) := by
  apply filterMap_saidBy_message
  · intro r
    simp [Item.said, List.filterMap_cons, Line.field?]
  · intro m
    simp [Item.said, List.filterMap_cons, Line.field?, Function.comp_def]

/-- Every block is that of a service or of a message. -/
theorem filterMap_block_perm (lines : List Line) : (lines.filterMap Line.block?).Perm
    (lines.filterMap Line.service? ++ lines.filterMap Line.message?) := by
  induction lines with
  | nil => exact .refl _
  | cons line rest ih =>
    cases line with
    | message name =>
      simp only [List.filterMap_cons, Line.block?, Line.service?, Line.message?]
      exact (ih.cons name).trans List.perm_middle.symm
    | service name =>
      simp only [List.filterMap_cons, Line.block?, Line.service?, Line.message?]
      exact ih.cons name
    | _ => exact ih

/-! ## Emission -/

/-- Both steps succeed, and the second goes on from what the first has marked. -/
theorem run_bind_eq_ok {α β : Type} {x : Emission α} {f : α → Emission β} {e e'' : Emitted}
    {b : β} : (x >>= f).run e = (.ok b, e'') ↔
      ∃ a e', x.run e = (.ok a, e') ∧ (f a).run e' = (.ok b, e'') := by
  have hbind : (x >>= f).run e = (ExceptT.bindCont f (x.run e).1).run (x.run e).2 := rfl
  rw [hbind]
  rcases x.run e with ⟨_ | a, e'⟩
  · constructor
    · intro h
      cases h
    · rintro ⟨_, _, h, -⟩
      cases h
  · constructor
    · intro h
      exact ⟨a, e', rfl, h⟩
    · rintro ⟨_, _, heq, h⟩
      cases heq
      exact h

theorem run_pure_eq_ok {α : Type} {a b : α} {e e' : Emitted} :
    (pure a : Emission α).run e = (.ok b, e') ↔ b = a ∧ e' = e := by
  have hpure : (pure a : Emission α).run e = (.ok a, e) := rfl
  rw [hpure, Prod.mk.injEq, Except.ok.injEq, eq_comm, eq_comm (a := e)]

theorem mark_run_eq_ok {name : String} {new : Bool} {e e' : Emitted} :
    (markEmitted name).run e = (.ok new, e') ↔ new = !e.contains name ∧ e' = e.insert name := by
  have hrun : (markEmitted name).run e = (.ok (!e.contains name), e.insert name) := rfl
  rw [hrun, Prod.mk.injEq, Except.ok.injEq, eq_comm, eq_comm (a := e.insert name)]

theorem message_run_eq_ok {name : String} {m : Message} {e e' : Emitted} :
    (liftM (g.message name) : Emission Message).run e = (.ok m, e') ↔
      g.messages.get? name = some m ∧ e' = e := by
  have hrun : (liftM (g.message name) : Emission Message).run e = (g.message name, e) := by
    cases g.message name <;> rfl
  rw [hrun, Prod.mk.injEq, eq_comm (a := e), ServiceGraph.message]
  cases g.messages.get? name with
  | none => simp
  | some m' => simp

theorem mem_insert {e : Emitted} {name x : String} :
    x ∈ (e.insert name).names ↔ x ∈ e.names ∨ x = name := by
  unfold Emitted.insert Emitted.contains
  split_ifs with h
  · have hname : name ∈ e.names := by simpa using h
    constructor
    · exact .inl
    · rintro (hx | rfl)
      · exact hx
      · exact hname
  · rw [List.mem_cons, or_comm]

/-- The set with all of the names. -/
def insertAll (e : Emitted) (names : List String) : Emitted := names.foldl Emitted.insert e

theorem insertAll_append (e : Emitted) (names more : List String) :
    insertAll e (names ++ more) = insertAll (insertAll e names) more := List.foldl_append

theorem mem_insertAll {e : Emitted} {names : List String} {x : String} :
    x ∈ (insertAll e names).names ↔ x ∈ e.names ∨ x ∈ names := by
  induction names generalizing e with
  | nil => simp [insertAll]
  | cons name rest ih =>
    rw [insertAll, List.foldl_cons, ← insertAll, ih, mem_insert, List.mem_cons, or_assoc]

/-- The graph has a message for every name that is new to the emission. -/
def NewKnown (g : ServiceGraph) (e : Emitted) (names : List String) : Prop :=
  ∀ name ∈ names, name ∉ e.names → ∃ m, g.messages.get? name = some m

theorem newKnown_cons_of_mem {e : Emitted} {name : String} {names : List String}
    (h : name ∈ e.names) : NewKnown g e (name :: names) ↔ NewKnown g e names := by
  simp [NewKnown, h]

theorem newKnown_cons_of_not_mem {e : Emitted} {name : String} {names : List String}
    (h : name ∉ e.names) : NewKnown g e (name :: names) ↔
      (∃ m, g.messages.get? name = some m) ∧ NewKnown g (e.insert name) names := by
  simp only [NewKnown, List.forall_mem_cons, mem_insert, not_or]
  constructor
  · rintro ⟨hname, hrest⟩
    exact ⟨hname h, fun x hx hnew => hrest x hx hnew.1⟩
  · rintro ⟨hname, hrest⟩
    refine ⟨fun _ => hname, fun x hx hnew => ?_⟩
    by_cases hxn : x = name
    · rw [hxn]
      exact hname
    · exact hrest x hx ⟨hnew, hxn⟩

theorem newKnown_append {e : Emitted} {names more : List String} :
    NewKnown g e (names ++ more) ↔ NewKnown g e names ∧ NewKnown g (insertAll e names) more := by
  induction names generalizing e with
  | nil => simp [NewKnown, insertAll]
  | cons name rest ih =>
    by_cases hname : name ∈ e.names
    · have hinsert : e.insert name = e := by simp [Emitted.insert, Emitted.contains, hname]
      rw [List.cons_append, newKnown_cons_of_mem hname, newKnown_cons_of_mem hname, ih, insertAll,
        insertAll, List.foldl_cons, hinsert]
    · rw [List.cons_append, newKnown_cons_of_not_mem hname, newKnown_cons_of_not_mem hname, ih,
        and_assoc]
      rfl

/-- The names that are new to the emission give a block each. -/
theorem messageBlocks_eq_ok {names : List String} {e e' : Emitted} {blocks : List Block} :
    (messageBlocks g names).run e = (.ok blocks, e') ↔ NewKnown g e names ∧
      blocks = ((pending e.names names).filterMap g.messages.get?).map Block.ofMessage ∧
      e' = insertAll e names := by
  induction names generalizing e e' blocks with
  | nil =>
    rw [messageBlocks, run_pure_eq_ok]
    simp [NewKnown, insertAll]
  | cons name rest ih =>
    simp only [messageBlocks, run_bind_eq_ok, mark_run_eq_ok, and_assoc, exists_and_left,
      exists_eq_left]
    by_cases hname : name ∈ e.names
    · have hcontains : e.contains name = true := by simpa [Emitted.contains] using hname
      have hinsert : e.insert name = e := by rw [Emitted.insert, if_pos hcontains]
      rw [hcontains, hinsert, pending_cons_of_mem hname, newKnown_cons_of_mem hname, insertAll,
        List.foldl_cons, hinsert]
      exact ih
    · have hcontains : e.contains name = false := by simpa [Emitted.contains] using hname
      have hpending : pending (e.insert name).names rest = pending (e.names ++ [name]) rest := by
        apply pending_congr
        intro x
        rw [mem_insert, List.mem_append, List.mem_singleton]
      rw [hcontains, pending_cons_of_not_mem hname, newKnown_cons_of_not_mem hname, ← hpending]
      simp only [Bool.not_false, if_true, run_bind_eq_ok, message_run_eq_ok, run_pure_eq_ok, ih]
      constructor
      · rintro ⟨m, _, ⟨hm, rfl⟩, _, _, ⟨hrest, rfl, rfl⟩, rfl, rfl⟩
        refine ⟨⟨⟨m, hm⟩, hrest⟩, ?_, rfl⟩
        rw [List.filterMap_cons_some hm]
        rfl
      · rintro ⟨⟨⟨m, hm⟩, hrest⟩, rfl, rfl⟩
        refine ⟨m, _, ⟨hm, rfl⟩, _, _, ⟨hrest, rfl, rfl⟩, ?_, rfl⟩
        rw [List.filterMap_cons_some hm]
        rfl

theorem recordBlocks_eq_ok {n : Naming} {record : ServiceRecord} {e e' : Emitted}
    {blocks : List Block} :
    (recordBlocks n g record).run e = (.ok blocks, e') ↔ NewKnown g e record.referencedModels ∧
      blocks = Block.ofRecord n record :: ((pending e.names record.referencedModels).filterMap
        g.messages.get?).map Block.ofMessage ∧
      e' = insertAll e record.referencedModels := by
  simp only [recordBlocks, run_bind_eq_ok, run_pure_eq_ok, messageBlocks_eq_ok]
  constructor
  · rintro ⟨_, _, ⟨hknown, rfl, rfl⟩, rfl, rfl⟩
    exact ⟨hknown, rfl, rfl⟩
  · rintro ⟨hknown, rfl, rfl⟩
    exact ⟨_, _, ⟨hknown, rfl, rfl⟩, rfl, rfl⟩

theorem graphBlocks_eq_ok {n : Naming} {records : List ServiceRecord} {e e' : Emitted}
    {done : List String} (hdone : ∀ x, x ∈ e.names ↔ x ∈ done) {blocks : List Block} :
    (graphBlocks n g records).run e = (.ok blocks, e') ↔
      NewKnown g e (records.flatMap (·.referencedModels)) ∧
      blocks = (items g done records).map (Item.block n) ∧
      e' = insertAll e (records.flatMap (·.referencedModels)) := by
  induction records generalizing e e' done blocks with
  | nil =>
    rw [graphBlocks, run_pure_eq_ok]
    simp [NewKnown, insertAll, items]
  | cons record rest ih =>
    have hdone' : ∀ x, x ∈ (insertAll e record.referencedModels).names ↔
        x ∈ done ++ record.referencedModels := by
      intro x
      rw [mem_insertAll, hdone, List.mem_append]
    have hfirst : (items g done (record :: rest)).map (Item.block n) =
        (Block.ofRecord n record :: ((pending e.names record.referencedModels).filterMap
          g.messages.get?).map Block.ofMessage) ++
        (items g (done ++ record.referencedModels) rest).map (Item.block n) := by
      rw [items, List.map_append, List.map_cons, List.map_map, pending_congr hdone]
      rfl
    simp only [graphBlocks, run_bind_eq_ok, run_pure_eq_ok, recordBlocks_eq_ok]
    rw [hfirst, List.flatMap_cons, newKnown_append, insertAll_append]
    constructor
    · rintro ⟨_, _, ⟨hknown, rfl, rfl⟩, _, _, hrest, rfl, rfl⟩
      obtain ⟨hknown', rfl, rfl⟩ := (ih hdone').mp hrest
      exact ⟨⟨hknown, hknown'⟩, rfl, rfl⟩
    · rintro ⟨⟨hknown, hknown'⟩, rfl, rfl⟩
      exact ⟨_, _, ⟨hknown, rfl, rfl⟩, _, _, (ih hdone').mpr ⟨hknown', rfl, rfl⟩, rfl, rfl⟩

end RpcScaffold.Schema
