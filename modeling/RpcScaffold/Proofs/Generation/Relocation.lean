import RpcScaffold.Proofs.Generation.Inventory
import RpcScaffold.Proofs.Schema.Decoding

/-!
# Moving the output

All emitters are handed the settings as a whole. The layout reaches the paths alone, and the package
reaches one line of one text.
-/

namespace RpcScaffold

open Code Text

/-! ## Output at two places -/

/-- Both settings derive the same names. The package and the layout are free. -/
structure Settings.NamesAlike (s s' : Settings) : Prop where
  naming : s'.naming = s.naming
  crates : s'.crates = s.crates

/-- The directory for the artifacts of a kind, if they have one of their own. -/
def Layout.directory? (l : Layout) : ArtifactKind → Option String
  | .converter | .converterIndex => some l.convertersDir
  | .adapter | .adapterIndex => some l.adaptersDir
  | .proxy | .proxyIndex => some l.proxiesDir
  | .schema | .instructions | .copiedSource => none

def Settings.packageLine (s : Settings) : String := "package " ++ s.package ++ ";"

/-- A line that names no package. -/
def IsUnpackaged (line : String) : Prop :=
  '\n' ∉ line.toList ∧ ¬ "package ".toList <+: line.toList

/-- An artifact of the first settings, and the same artifact of the second. -/
inductive Moved (s s' : Settings) : String × Artifact → String × Artifact → Prop
  /-- The file keeps its name and its text in another directory. -/
  | file {kind : ArtifactKind} {directory directory' : String}
      (h : s.layout.directory? kind = some directory)
      (h' : s'.layout.directory? kind = some directory') (file text : String) :
      Moved s s' (Path.inDirectory directory file, ⟨kind, text⟩)
        (Path.inDirectory directory' file, ⟨kind, text⟩)
  /-- The schema is another file with another package in it. -/
  | schema {front back : List String} (h : ∀ line ∈ front ++ back, IsUnpackaged line) :
      Moved s s' (s.layout.schemaFile, ⟨.schema, printed (front ++ s.packageLine :: back)⟩)
        (s'.layout.schemaFile, ⟨.schema, printed (front ++ s'.packageLine :: back)⟩)

/-- The bundles correspond artifact by artifact. -/
def Bundle.MovesTo (s s' : Settings) (b b' : Bundle) : Prop :=
  ∃ moved, List.Forall₂ (Moved s s') b.toList moved ∧ b'.toList.Perm moved

variable {r : Registry} {s s' : Settings} {g : ServiceGraph}

/-! ## Schemas -/

namespace Schema

theorem render_eq_printed (s : Schema) : s.render = printed
    (["// " ++ notice, "", "syntax = \"proto3\";", ""] ++ ("package " ++ s.package ++ ";") ::
      s.blocks.flatMap fun b => "" :: b.step.lines 0) := by
  rw [render, render_plain (arePlain_steps fun b _ => isPlain_step b), linesOf_steps, preamble]
  rfl

theorem unpackaged_block {α : Type} {header : String} {line : α → String} {xs : List α}
    (hheader : ¬ "package ".toList <+: (header ++ " " ++ openBrace).toList) :
    ∀ l ∈ (Step.block header (xs.map fun x => .line (line x))).lines 0,
      ¬ "package ".toList <+: l.toList := by
  rw [lines_block, List.forall_mem_append, List.forall_mem_cons, List.forall_mem_map]
  refine ⟨⟨?_, ?_⟩, by decide⟩
  · simpa [indentation] using hheader
  · intro x _
    simp [indentation, List.replicate_succ, List.cons_prefix_cons]

theorem isUnpackaged_step {b : Block} (h : b.IsSpelled) :
    ∀ line ∈ b.step.lines 0, IsUnpackaged line := by
  intro line hline
  refine ⟨not_mem_step h line hline, ?_⟩
  revert line
  cases b with
  | service name rpcs => exact unpackaged_block (by simp [List.cons_prefix_cons])
  | message name fields => exact unpackaged_block (by simp [List.cons_prefix_cons])

end Schema

/-- The package stands on one line, and no other line depends on it. -/
theorem moved_schema (hs : s.Sound) (h : Discovers r s.naming g) (hnames : s.NamesAlike s') :
    Moved s s' (schemaArtifact s g) (schemaArtifact s' g) := by
  have hspelled := Schema.isSpelled_ofItems hs h
  have hblocks : (Schema.ofItems s' (Schema.items g [] g.records)).blocks =
      (Schema.ofItems s (Schema.items g [] g.records)).blocks := by
    rw [Schema.ofItems, Schema.ofItems, hnames.naming]
  rw [schemaArtifact, schemaArtifact, Schema.render_eq_printed, Schema.render_eq_printed, hblocks]
  apply Moved.schema
  rw [List.forall_mem_append]
  constructor
  · simp only [IsUnpackaged]
    decide
  · intro line hline
    obtain ⟨b, hb, hline⟩ := List.mem_flatMap.mp hline
    rcases List.mem_cons.mp hline with rfl | hline
    · exact ⟨by decide, by decide⟩
    · exact Schema.isUnpackaged_step (hspelled.blocks b hb) line hline

/-! ## Directories -/

/-- The modules of a directory and its index, moved to another directory. -/
theorem moved_directory {α : Type} {kind index : ArtifactKind} {directory directory' : String}
    (h : s.layout.directory? kind = some directory ∧ s.layout.directory? index = some directory)
    (h' : s'.layout.directory? kind = some directory' ∧
      s'.layout.directory? index = some directory')
    (xs : List α) (module text : α → String) (indexText : String) :
    List.Forall₂ (Moved s s')
      (xs.map (fun x => (moduleFile directory (module x), ⟨kind, text x⟩)) ++
        [(indexFile directory, ⟨index, indexText⟩)])
      (xs.map (fun x => (moduleFile directory' (module x), ⟨kind, text x⟩)) ++
        [(indexFile directory', ⟨index, indexText⟩)]) := by
  apply List.rel_append
  · rw [List.forall₂_map_left_iff, List.forall₂_map_right_iff, List.forall₂_same]
    intro x _
    exact .file h.1 h'.1 _ _
  · exact .cons (.file h.2 h'.2 _ _) .nil

theorem Settings.NamesAlike.eq (h : s.NamesAlike s') :
    s' = { s with package := s'.package, layout := s'.layout } := by
  obtain ⟨hnaming, hcrates⟩ := h
  cases s'
  simp only at hnaming hcrates ⊢
  rw [hnaming, hcrates]

theorem moved_artifactsOf (hs : s.Sound) (h : Discovers r s.naming g) (hnames : s.NamesAlike s') :
    List.Forall₂ (Moved s s') (artifactsOf s g) (artifactsOf s' g) := by
  refine .cons (moved_schema hs h hnames) ?_
  -- What follows holds the texts of `s` at the paths of `s'`.
  rw [hnames.eq]
  refine List.rel_append (List.rel_append ?_ ?_) ?_
  · exact moved_directory ⟨rfl, rfl⟩ ⟨rfl, rfl⟩ g.messages.toList
      (fun m => Naming.converterModule m.name) (fun m => (Converter.Module.ofMessage s m).render) _
  · exact moved_directory ⟨rfl, rfl⟩ ⟨rfl, rfl⟩ g.records
      (fun record => Naming.moduleOf (s.naming.adapterType record.shortName))
      (fun record => (Adapter.ofRecord s record).render) _
  · exact moved_directory ⟨rfl, rfl⟩ ⟨rfl, rfl⟩ g.records
      (fun record => Naming.moduleOf (Naming.proxyType record.shortName))
      (fun record => (Proxy.ofRecord s record).render) _

/-! ## Runs -/

/-- Where the output goes says nothing about what is generated. Checks find the same graph or the
same fault, and two generations differ in the places of their files and in the package line. -/
theorem generate_moves (hs : s.check = .ok ()) (hs' : s'.check = .ok ())
    (hnames : s.NamesAlike s') : check r s' = check r s ∧
    ∀ gen gen', generate r s = .ok gen → generate r s' = .ok gen' →
      gen'.graph = gen.graph ∧ gen.bundle.MovesTo s s' gen'.bundle := by
  have hcheck : check r s' = check r s := by
    rw [check_eq, check_eq, hs, hs', hnames.naming]
  refine ⟨hcheck, ?_⟩
  intro gen gen' hgen hgen'
  have hgraph : gen'.graph = gen.graph := by
    have hsame := check_of_generate_eq_ok hgen'
    rw [hcheck, check_of_generate_eq_ok hgen] at hsame
    exact (Except.ok.inj hsame).symm
  refine ⟨hgraph, ?_⟩
  have hmoved := moved_artifactsOf (Settings.sound_of_check hs) (discovers_of_generate hgen) hnames
  obtain ⟨moved, hforall, hperm⟩ := List.perm_comp_forall₂ (toList_of_generate hgen) hmoved
  have htoList := toList_of_generate hgen'
  rw [hgraph] at htoList
  exact ⟨moved, hforall, htoList.trans hperm.symm⟩

/-- Another package, and a directory below `out` for each kind. -/
def flat : Settings where
  package := "acme.v1"
  layout := {
    schemaFile := "api.proto"
    convertersDir := "out/converters"
    adaptersDir := "out/adapters"
    proxiesDir := "out/proxies" }

theorem generate_moves_flat : ∃ gen gen', generate (pingPong ["Echo"]) {} = .ok gen ∧
    generate (pingPong ["Echo"]) flat = .ok gen' ∧ gen.bundle.MovesTo {} flat gen'.bundle := by
  have hflat : flat.check = .ok () := by decide +kernel
  have hnames : ({} : Settings).NamesAlike flat := ⟨rfl, rfl⟩
  obtain ⟨hcheck, hmoves⟩ :=
    @generate_moves (pingPong ["Echo"]) {} flat Settings.check_default hflat hnames
  obtain ⟨gen, hgen, hrecords, hmessages⟩ := exists_generate_pingPong
  have hok : check (pingPong ["Echo"]) flat = .ok gen.graph := by
    rw [hcheck, check_of_generate_eq_ok hgen]
  have hpaths : ((artifactsOf flat gen.graph).map (·.1)).Nodup := by
    rw [paths_artifactsOf, ServiceGraph.converterModules, ServiceGraph.adapterModules,
      ServiceGraph.proxyModules, Catalog.names, hrecords, hmessages]
    decide +kernel
  obtain ⟨gen', hgen'⟩ := (exists_generate_iff_nodup hok).mpr hpaths
  exact ⟨gen, gen', hgen, hgen', (hmoves gen gen' hgen hgen').2⟩

end RpcScaffold
