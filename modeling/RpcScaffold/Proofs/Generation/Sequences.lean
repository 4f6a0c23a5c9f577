import RpcScaffold.Proofs.Discovery.Sequences
import RpcScaffold.Proofs.Generation.Agreement

/-!
# Generating from either form of a sequence

Nothing that is emitted tells whether a field was declared as an array or as a list.
-/

namespace RpcScaffold

variable {s : Settings} {g : ServiceGraph}

/-! ## What is made of a graph -/

/-- The services are the same, and so are the names and the schema types of all fields. -/
theorem Schema.items_asLists (n : Naming) (done : List String) (records : List ServiceRecord) :
    (items g.asLists done records).map (Item.block n) =
      (items g done records).map (Item.block n) := by
  have hblock : ∀ names : List String,
      ((names.filterMap g.asLists.messages.get?).map Item.message).map (Item.block n) =
        ((names.filterMap g.messages.get?).map Item.message).map (Item.block n) := by
    intro names
    have hget? : g.asLists.messages.get? = fun name => (g.messages.get? name).map Message.asLists :=
      funext fun name => Catalog.get?_asLists name
    simp [hget?, ← List.map_filterMap, Item.block, Block.ofMessage_asLists]
  induction records generalizing done with
  | nil => rfl
  | cons record rest ih =>
    rw [items, items, List.map_append, List.map_append, List.map_cons, List.map_cons, ih, hblock]

theorem artifactsOf_asLists (s : Settings) (g : ServiceGraph) :
    artifactsOf s g.asLists = artifactsOf s g := by
  have hrecords : g.asLists.records = g.records := rfl
  have hmessages : g.asLists.messages.toList = g.messages.toList.map Message.asLists :=
    Catalog.toList_asLists
  have hschema : schemaArtifact s g.asLists = schemaArtifact s g := by
    unfold schemaArtifact Schema.ofItems
    rw [hrecords, Schema.items_asLists]
  have hconverters : converterArtifacts s g.asLists = converterArtifacts s g := by
    unfold converterArtifacts Converter.renderIndex
    simp [hmessages, Function.comp_def, Converter.ofMessage_asLists]
  unfold artifactsOf
  rw [hschema, hconverters]
  rfl

namespace Instructions

theorem uses_asLists {w : DomainType} (hw : w.isLeaf = true) : uses g.asLists w = uses g w := by
  have hmessages : g.asLists.messages.toList = g.messages.toList.map Message.asLists :=
    Catalog.toList_asLists
  simp [uses, hmessages, Function.comp_def, Message.Field.asLists, mentions_asLists hw]

theorem render_asLists (g : ServiceGraph) (s : Settings) (v : PackageVersions) :
    render g.asLists s v = render g s v := by
  have hshared : sharedSection g.asLists s v = sharedSection g s v := by
    unfold sharedSection
    rw [uses_asLists rfl, uses_asLists rfl]
  unfold render steps
  rw [hshared]
  rfl

end Instructions

/-! ## Two registries -/

/-- The second registry is the first with some arrays in its fields declared as lists, or lists as
arrays. -/
def Registry.Interchanges (r r' : Registry) : Prop := r.asLists = r'.asLists

variable {r r' : Registry}

theorem discover_interchanged (h : r.Interchanges r') (n : Naming) :
    Alike (fun g g' => g.asLists = g'.asLists) (discover r n) (discover r' n) := by
  have hr' := discover_asLists r' n
  rw [← h] at hr'
  exact (discover_asLists r n).meet hr'

theorem check_interchanged (h : r.Interchanges r') (s : Settings) :
    Alike (fun g g' => g.asLists = g'.asLists) (check r s) (check r' s) := by
  rw [check_eq, check_eq]
  apply (Alike.refl _).bind
  rintro _ _ rfl
  exact discover_interchanged h s.naming

/-- A generation from the one form fails where that from the other does, or else all artifacts are
the same, and the instructions too. -/
theorem generate_interchanged (h : r.Interchanges r') (s : Settings) :
    Alike (fun g g' => ∀ v, Instructions.render g s v = Instructions.render g' s v)
      (check r s) (check r' s) ∧
    Alike (fun gen gen' => gen.bundle = gen'.bundle ∧
        ∀ v, Instructions.render gen.graph s v = Instructions.render gen'.graph s v)
      (generate r s) (generate r' s) := by
  have hrender : ∀ {g g' : ServiceGraph}, g.asLists = g'.asLists →
      ∀ v, Instructions.render g s v = Instructions.render g' s v := by
    intro g g' hg v
    rw [← Instructions.render_asLists g, hg, Instructions.render_asLists]
  have hcheck := check_interchanged h s
  refine ⟨hcheck.imp fun _ _ => hrender, ?_⟩
  cases hr : check r s with
  | error e =>
    cases hr' : check r' s with
    | error e' =>
      rw [generate_of_check_error hr, generate_of_check_error hr']
      exact .error e e'
    | ok g' =>
      rw [hr, hr'] at hcheck
      cases hcheck
  | ok g =>
    obtain ⟨g', hr', hg⟩ := hcheck.exists_of_ok hr
    have hartifacts : artifactsOf s g = artifactsOf s g' := by
      rw [← artifactsOf_asLists, hg, artifactsOf_asLists]
    obtain ⟨diagnostics, hrun⟩ := generate_of_check_ok hr
    obtain ⟨diagnostics', hrun'⟩ := generate_of_check_ok hr'
    rw [hrun, hrun', hartifacts]
    cases ({} : Bundle).insertAll (artifactsOf s g') with
    | error e => exact .error e e
    | ok b => exact .ok ⟨rfl, hrender hg⟩

/-- The same two models, with the pings that come back in an array. -/
def pingPongArray : Registry where
  models := [
    { name := "Ping", fields := [{ name := "next", type := .named "Pong" }] },
    { name := "Pong", fields := [
      { name := "back", type := .array (.named "Ping") },
      { name := "self", type := .named "Pong" }] }]
  services := (pingPong ["Echo"]).services

theorem generate_interchanged_pingPong :
    (pingPong ["Echo"]).Interchanges pingPongArray ∧ pingPong ["Echo"] ≠ pingPongArray ∧
    ∃ gen gen', generate (pingPong ["Echo"]) {} = .ok gen ∧ generate pingPongArray {} = .ok gen' ∧
      gen.bundle = gen'.bundle := by
  have hsame : (pingPong ["Echo"]).Interchanges pingPongArray := rfl
  obtain ⟨-, hgenerate⟩ := generate_interchanged hsame {}
  obtain ⟨gen, hgen, -⟩ := exists_generate_pingPong
  obtain ⟨gen', hgen', hbundle, -⟩ := hgenerate.exists_of_ok hgen
  exact ⟨hsame, by decide, gen, gen', hgen, hgen', hbundle⟩

end RpcScaffold
