import RpcScaffold.Proofs.Discovery.Acceptance
import RpcScaffold.Proofs.Schema.Blocks

/-!
# Emitting into a set of names

Records are emitted one after the other, and each message once. An emission may start from names
that were emitted before, and from a graph that was never checked.
-/

namespace RpcScaffold.Schema

variable {g : ServiceGraph} {e : Emitted} {records : List ServiceRecord}

/-- Names that were emitted before need no message. -/
theorem newKnown_flatMap : NewKnown g e (records.flatMap (·.referencedModels)) ↔
    ∀ record ∈ records, ∀ name ∈ record.referencedModels, name ∉ e.names →
      ∃ m, g.messages.get? name = some m := by
  simp only [NewKnown, List.mem_flatMap]
  constructor
  · intro h record hrecord name hname hnew
    exact h name ⟨record, hrecord, hname⟩ hnew
  · rintro h name ⟨record, hrecord, hname⟩ hnew
    exact h record hrecord name hname hnew

/-- No name is passed over. -/
theorem forall₂_get? {names : List String} (h : NewKnown g e names) :
    List.Forall₂ (fun name m => g.messages.get? name = some m) (pending e.names names)
      ((pending e.names names).filterMap g.messages.get?) := by
  have hall : ∀ name ∈ pending e.names names, ∃ m, g.messages.get? name = some m := by
    intro name hname
    obtain ⟨hmem, hnew⟩ := mem_pending.mp hname
    exact h name hmem hnew
  generalize pending e.names names = new at hall
  induction new with
  | nil => exact .nil
  | cons name rest ih =>
    obtain ⟨⟨m, hm⟩, hrest⟩ := List.forall_mem_cons.mp hall
    rw [List.filterMap_cons_some hm]
    exact .cons hm (ih hrest)

/-- An emission succeeds if the graph knows every referenced name that is new to it. Then each
record has its block, each new name a message at its first occurrence, and all names are marked. -/
theorem graphBlocks_emits (n : Naming) (g : ServiceGraph) (records : List ServiceRecord)
    (e : Emitted) :
    ((∃ blocks e', (graphBlocks n g records).run e = (.ok blocks, e')) ↔
      ∀ record ∈ records, ∀ name ∈ record.referencedModels, name ∉ e.names →
        ∃ m, g.messages.get? name = some m) ∧
    ∀ blocks e', (graphBlocks n g records).run e = (.ok blocks, e') →
      blocks = (items g e.names records).map (Item.block n) ∧
      (items g e.names records).filterMap Item.record? = records ∧
      List.Forall₂ (fun name m => g.messages.get? name = some m)
        (pending e.names (records.flatMap (·.referencedModels)))
        ((items g e.names records).filterMap Item.message?) ∧
      ∀ x, x ∈ e'.names ↔ x ∈ e.names ∨ ∃ record ∈ records, x ∈ record.referencedModels := by
  constructor
  · rw [← newKnown_flatMap]
    constructor
    · rintro ⟨blocks, e', h⟩
      exact (graphBlocks_eq_ok fun _ => Iff.rfl).mp h |>.1
    · intro hknown
      exact ⟨_, _, (graphBlocks_eq_ok fun _ => Iff.rfl).mpr ⟨hknown, rfl, rfl⟩⟩
  · intro blocks e' h
    obtain ⟨hknown, heq, rfl⟩ := (graphBlocks_eq_ok fun _ => Iff.rfl).mp h
    refine ⟨heq, filterMap_record_items _ _, ?_, ?_⟩
    · rw [filterMap_message_items]
      exact forall₂_get? hknown
    · intro x
      rw [mem_insertAll, List.mem_flatMap]

/-- A graph that has lost one of its two messages. -/
def pongOnly : ServiceGraph where
  records := [echoRecord "Echo", echoRecord "Twice"]
  messages := ({} : Catalog).insert pongMessage

/-- The lost message was emitted before, and the other one is emitted once. -/
theorem graphBlocks_emits_pongOnly : ∃ e : Emitted,
    (graphBlocks {} pongOnly pongOnly.records).run ⟨["Ping"]⟩ = (.ok [
      .ofRecord {} (echoRecord "Echo"), .ofMessage pongMessage, .ofRecord {} (echoRecord "Twice")],
      e) ∧ ∀ x, x ∈ e.names ↔ x = "Ping" ∨ x = "Pong" := by
  obtain ⟨hiff, hemits⟩ := graphBlocks_emits {} pongOnly pongOnly.records ⟨["Ping"]⟩
  have hpong : pongOnly.messages.get? "Pong" = some pongMessage := rfl
  have hknown : ∀ record ∈ pongOnly.records, ∀ name ∈ record.referencedModels, name ∉ ["Ping"] →
      ∃ m, pongOnly.messages.get? name = some m := by
    intro record hrecord name hname hnew
    have hnames : name ∈ ["Ping", "Pong"] := by
      rcases List.mem_pair.mp hrecord with rfl | rfl
      · exact hname
      · exact hname
    rcases List.mem_pair.mp hnames with rfl | rfl
    · exact absurd List.mem_cons_self hnew
    · exact ⟨_, hpong⟩
  obtain ⟨blocks, e, hrun⟩ := hiff.mpr hknown
  obtain ⟨rfl, -, -, hmarked⟩ := hemits blocks e hrun
  refine ⟨e, hrun, fun x => ?_⟩
  rw [hmarked]
  simp [pongOnly, echoRecord]

end RpcScaffold.Schema
