import RpcScaffold.CommandLine.Commands
import RpcScaffold.Proofs.CopiedSources.Staging
import RpcScaffold.Proofs.Files.Shape
import RpcScaffold.Proofs.Generation.Inventory
import RpcScaffold.Proofs.Output.Plan

/-!
# Paths stay inside

All that a generation stages has a path that the writer accepts. A path that it does not accept
stops it before it looks at a file.
-/

namespace RpcScaffold

open RpcScaffold.Path Text

/-! ## Layouts -/

theorem Settings.staysInside_of_check {s : Settings} (h : s.check = .ok ()) :
    ∀ p ∈ layoutPaths s.layout, staysInside p.2 = true := by
  rw [Settings.check_eq_ok, fault?] at h
  split_ifs at h
  split at h
  · cases h
  · intro p hp
    have hnot := List.find?_eq_none.mp (Option.map_eq_none_iff.mp h) p hp
    simpa using hnot

/-! ## Bundles -/

/-- The paths of all artifacts stay inside. -/
def Bundle.Inside (b : Bundle) : Prop := ∀ path ∈ b.paths, staysInside path = true

theorem Bundle.Inside.insert {b b' : Bundle} (h : b.Inside) {path : String} {kind : ArtifactKind}
    {text : String} (hpath : staysInside path = true) (hi : b.insert path kind text = .ok b') :
    b'.Inside := by
  obtain ⟨-, rfl⟩ := insert_eq_ok.mp hi
  intro other hother
  obtain ⟨e, he, rfl⟩ := List.mem_map.mp hother
  rcases mem_insertEntry he with rfl | he
  · exact hpath
  · exact h e.1 (List.mem_map_of_mem he)

/-- The file of a module is one name. -/
theorem up_not_mem_moduleName {module : String} (h : IsNamed module) :
    ".." ∉ pieces (module ++ ".rs") := by
  have hslash : '/' ∉ (module ++ ".rs").toList := by
    rw [String.toList_append, List.mem_append, not_or]
    refine ⟨fun hmem => ?_, by decide⟩
    exact absurd (h '/' hmem) (by decide)
  rw [pieces_of_not_mem hslash, List.mem_singleton]
  intro heq
  have hlength := congrArg String.length heq
  rw [String.length_append] at hlength
  have hrs : ".rs".length = 3 := rfl
  have hup : "..".length = 2 := rfl
  omega

theorem staysInside_moduleFiles {directory : String} (hd : staysInside directory = true)
    {modules : List String} (hm : ∀ module ∈ modules, IsNamed module) :
    ∀ path ∈ moduleFiles directory modules, staysInside path = true := by
  rw [moduleFiles, List.forall_mem_append, List.forall_mem_map, List.forall_mem_singleton]
  refine ⟨fun module hmodule => ?_, ?_⟩
  · exact staysInside_inDirectory hd (up_not_mem_moduleName (hm module hmodule))
  · exact staysInside_inDirectory hd (by decide +kernel)

theorem inside_of_generate {r : Registry} {s : Settings} {gen : Generation}
    (h : generate r s = .ok gen) : gen.bundle.Inside := by
  have hlayout := Settings.staysInside_of_check (settings_of_generate h)
  simp only [Settings.layoutPaths, List.forall_mem_cons] at hlayout
  obtain ⟨hschema, hconverters, -, hadapters, -, hproxies, -⟩ := hlayout
  have hpaths : ∀ path ∈ (artifactsOf s gen.graph).map (·.1), staysInside path = true := by
    rw [paths_artifactsOf, List.forall_mem_cons, List.forall_mem_append, List.forall_mem_append]
    refine ⟨hschema, ⟨staysInside_moduleFiles hconverters ?_,
      staysInside_moduleFiles hadapters ?_⟩, staysInside_moduleFiles hproxies ?_⟩
    · intro module hmodule
      obtain ⟨name, -, rfl⟩ := List.mem_map.mp hmodule
      exact Converter.isNamed_converterModule name
    · intro module hmodule
      obtain ⟨record, -, rfl⟩ := List.mem_map.mp hmodule
      exact isNamed_snakeCase _
    · intro module hmodule
      obtain ⟨record, -, rfl⟩ := List.mem_map.mp hmodule
      exact isNamed_snakeCase _
  intro path hpath
  exact hpaths path ((((toList_of_generate h).map (·.1)).mem_iff).mp hpath)

/-! ## Sources that are copied -/

namespace CopiedSources

/-- A source is copied under the names on the way to it. -/
theorem inside_copy {target : String} (hd : staysInside target = true) {b b' : Bundle}
    (hb : b.Inside) {f : Found} (hnames : ∀ name ∈ f.names, IsName name)
    (hsource : isSource f = true) {kind : ArtifactKind} {text : String}
    (hinsert : b.insert (copyPath target f.names) kind text = .ok b') : b'.Inside := by
  have hne : f.names ≠ [] := by
    intro hnil
    simp [isSource, hnil] at hsource
  have hpieces := pieces_intercalate hne fun name hname => (hnames name hname).2.2.2
  refine hb.insert (staysInside_inDirectory hd ?_) hinsert
  rw [hpieces]
  exact fun hup => (hnames _ hup).2.2.1 rfl

theorem inside_collect {t t' : FileTree} (h : t.Named) {directory target : String}
    (hd : staysInside target = true) {b b' : Bundle} (hb : b.Inside) {r : Except FileFailure Nat}
    (hr : (collect directory target b).Runs t (r, b') t') : b'.Inside := by
  obtain ⟨-, hinside, -⟩ := keeps_collect (P := fun _ v => v.Inside)
    (fun found hwalk f hf hsource _ _ _ _ hv hinsert =>
      inside_copy hd hv (FileTree.names_of_walk h hwalk f hf) hsource hinsert) hb hr
  exact hinside

end CopiedSources

namespace CommandLine

/-- The bundle that a run writes: what a generation stages, the sources that are copied, and the
instructions. -/
inductive Prepares (r : Registry) (s : Settings) : Bundle → Prop
  | intro {gen : Generation} {models services : Option String} {t u t' u' : FileTree} {n m : Nat}
      {b b' complete : Bundle} {readme : String} (generated : generate r s = .ok gen)
      (named : t.Named)
      (copiedModels : (collect models s.layout.modelsDir gen.bundle).run.Runs t (.ok (n, b)) t')
      (named' : u.Named)
      (copiedServices : (collect services s.layout.servicesDir b).run.Runs u (.ok (m, b')) u')
      (instructed : b'.insert s.layout.instructionsFile .instructions readme = .ok complete) :
      Prepares r s complete

theorem inside_collect {t t' : FileTree} (h : t.Named) {directory : Option String} {target : String}
    (hd : staysInside target = true) {b b' : Bundle} (hb : b.Inside) {n : Nat}
    (hr : (collect directory target b).run.Runs t (.ok (n, b')) t') : b'.Inside := by
  cases directory with
  | none =>
    obtain ⟨heq, -⟩ := FileProgram.runs_pure.mp hr
    rw [(Prod.mk.inj (Except.ok.inj heq)).2]
    exact hb
  | some directory =>
    obtain ⟨⟨answer, next⟩, u, hcollect, hrest⟩ := FileProgram.runs_bind.mp hr
    have hnext := CopiedSources.inside_collect h hd hb hcollect
    cases answer with
    | ok k =>
      obtain ⟨heq, -⟩ := FileProgram.runs_pure.mp hrest
      rw [(Prod.mk.inj (Except.ok.inj heq)).2]
      exact hnext
    | error f =>
      obtain ⟨heq, -⟩ := FileProgram.runs_pure.mp hrest
      cases heq

theorem Prepares.inside {r : Registry} {s : Settings} {b : Bundle} (h : Prepares r s b) :
    b.Inside ∧ ∀ p ∈ Settings.layoutPaths s.layout, staysInside p.2 = true := by
  cases h with
  | intro generated named copiedModels named' copiedServices instructed =>
    have hpaths := Settings.staysInside_of_check (settings_of_generate generated)
    have hlayout := hpaths
    simp only [Settings.layoutPaths, List.forall_mem_cons] at hlayout
    obtain ⟨-, -, hmodels, -, hservices, -, hinstructions, -⟩ := hlayout
    have hgenerated := inside_of_generate generated
    have hcopied := inside_collect named hmodels hgenerated copiedModels
    have hall := inside_collect named' hservices hcopied copiedServices
    exact ⟨hall.insert hinstructions instructed, hpaths⟩

end CommandLine

/-! ## Writes -/

namespace Output

open FileAction WritePlan

theorem failsAtFiles_clearFound (directory : String) (f : Found) :
    FailsAtFiles (clearFound directory f) := by
  rw [clearFound]
  split_ifs
  · exact (failsAtFiles_orFailAt _ _).bind fun _ => failsAtFiles_pure _
  · exact (failsAtFiles_orFailAt _ _).bind fun _ => failsAtFiles_pure _

theorem failsAtFiles_clearFiles (directory : String) : FailsAtFiles (clearFiles directory) := by
  refine (failsAtFiles_look _).bind fun kind => ?_
  split_ifs
  · exact failsAtFiles_pure _
  · refine (failsAtFiles_orFailAt _ _).bind fun found => failsAtFiles_foldlM (fun n f => ?_) _ _
    exact (failsAtFiles_clearFound directory f).bind fun _ => failsAtFiles_pure _

theorem failsAtFiles_writeFile (path text : String) : FailsAtFiles (writeFile path text) := by
  rw [writeFile]
  have hreplace : FailsAtFiles (do
      orFailAt (temporary path) (FileProgram.write (temporary path) text.toUTF8)
      orFailAt path (FileProgram.rename (temporary path) path)) :=
    (failsAtFiles_orFailAt _ _).bind fun _ => failsAtFiles_orFailAt _ _
  cases parent? path with
  | none => exact hreplace
  | some directory => exact (failsAtFiles_orFailAt _ _).bind fun _ => hreplace

theorem failsAtFiles_carryOut (p : WritePlan) : FailsAtFiles (carryOut p) := by
  have hrest : FailsAtFiles (do
      let removed ← p.resets.foldlM (fun n directory => do pure (n + (← clearFiles directory))) 0
      p.targets.forM fun t => writeFile t.1 t.2
      writeFile p.manifestPath p.manifest
      pure { written := p.targets.length, removed, bytes := Text.totalSize (p.targets.map (·.2)) }
      : FileAction WriteSummary) := by
    refine FailsAtFiles.bind (failsAtFiles_foldlM (fun n directory => ?_) _ _) fun removed => ?_
    · exact (failsAtFiles_clearFiles directory).bind fun _ => failsAtFiles_pure _
    · refine FailsAtFiles.bind (failsAtFiles_forM (fun w => ?_) _) fun _ => ?_
      · exact failsAtFiles_writeFile w.1 w.2
      · exact (failsAtFiles_writeFile _ _).bind fun _ => failsAtFiles_pure _
  refine (failsAtFiles_look _).bind fun isFile => ?_
  dsimp only
  split_ifs
  · exact (failsAtFiles_orFailAt _ _).bind fun _ => hrest
  · exact hrest

theorem mem_checkedPaths {b : Bundle} {l : Layout} {path : String} (h : path ∈ checkedPaths b l) :
    path ∈ b.paths ∨ ∃ p ∈ Settings.layoutPaths l, p.2 = path := by
  rw [checkedPaths, List.mem_append] at h
  refine h.imp_right fun hpath => List.mem_map.mp ?_
  simp only [Layout.resetDirs, List.mem_cons, List.not_mem_nil, or_false] at hpath
  simp only [Settings.layoutPaths, List.map_cons, List.map_nil, List.mem_cons]
  tauto

/-- A write of what was prepared is never refused for a path. A write with a path that does not stay
inside is refused for one, and nothing is changed. -/
theorem writeBundle_checks (root package : String) :
    (∀ r s b, CommandLine.Prepares r s b →
      (∀ path ∈ b.paths ++ (Settings.layoutPaths s.layout).map (·.2), staysInside path = true) ∧
        ∀ t result t', (writeBundle root b s.layout package).run.Runs t result t' →
          ∀ path, result ≠ .error (.outside path)) ∧
      ∀ b l, (∃ path ∈ checkedPaths b l, staysInside path ≠ true) →
        ∃ path ∈ checkedPaths b l, staysInside path ≠ true ∧ ∀ t result t',
          (writeBundle root b l package).run.Runs t result t' ↔
            result = .error (.outside path) ∧ t' = t := by
  refine ⟨fun r s b hb => ?_, fun b l hout => ?_⟩
  · obtain ⟨hinside, hlayout⟩ := hb.inside
    have hall : ∀ path ∈ checkedPaths b s.layout, staysInside path = true := by
      intro path hpath
      rcases mem_checkedPaths hpath with hpath | ⟨p, hp, rfl⟩
      · exact hinside path hpath
      · exact hlayout p hp
    refine ⟨?_, ?_⟩
    · rw [List.forall_mem_append, List.forall_mem_map]
      exact ⟨hinside, hlayout⟩
    · rintro t result t' hr path rfl
      rw [writeBundle] at hr
      obtain ⟨-, hplan⟩ | ⟨other, hother, hnot, -⟩ := ofBundle_cases root b s.layout package
      · rw [hplan] at hr
        obtain ⟨_, _, heq⟩ := failsAtFiles_carryOut _ _ _ _ hr
        cases heq
      · exact absurd (hall other hother) hnot
  · obtain ⟨path, hpath, hnot⟩ := hout
    obtain ⟨hinside, -⟩ | ⟨other, hother, hnot, hplan⟩ := ofBundle_cases root b l package
    · exact absurd (hinside path hpath) hnot
    · refine ⟨other, hother, hnot, fun t result t' => ?_⟩
      rw [writeBundle, hplan]
      exact FileProgram.runs_pure

/-- A bundle with an artifact beside the output root. -/
def escaping : Bundle := ⟨⟨[("../outside.rs", ⟨.converter, "x"⟩)]⟩⟩

/-- The default layout keeps a place for the instructions. -/
theorem instructions_free {r : Registry} {gen : Generation} (h : generate r {} = .ok gen) :
    gen.bundle.get? "README.txt" = none := by
  have hdirectory : ∀ directory modules, ['s'] <:+ directory.toList →
      ¬ StartsIn directory "README.txt" → "README.txt" ∉ moduleFiles directory modules :=
    fun _ _ hlast => not_mem_moduleFiles hlast (by decide)
  have hpaths : "README.txt" ∉ (artifactsOf {} gen.graph).map (·.1) := by
    rw [paths_artifactsOf, List.mem_cons, List.mem_append, List.mem_append]
    rintro (hschema | (hconverters | hadapters) | hproxies)
    · exact absurd hschema (by decide +kernel)
    · exact hdirectory _ _ (by decide) (by unfold StartsIn; decide) hconverters
    · exact hdirectory _ _ (by decide) (by unfold StartsIn; decide) hadapters
    · exact hdirectory _ _ (by decide) (by unfold StartsIn; decide) hproxies
  rw [Option.eq_none_iff_forall_not_mem]
  intro a ha
  exact hpaths (List.mem_map_of_mem ((get?_of_generate h).mp ha))

theorem writeBundle_checks_pingPong :
    (∃ b, CommandLine.Prepares (pingPong ["Echo"]) {} b ∧ ∀ t result t',
      (writeBundle "out" b {} "demo").run.Runs t result t' → ∀ path, result ≠ .error (.outside path)) ∧
    ∃ path, ∀ t, (writeBundle "out" escaping {} "demo").run.Runs t (.error (.outside path)) t := by
  obtain ⟨hprepared, hescaping⟩ := writeBundle_checks "out" "demo"
  constructor
  · obtain ⟨gen, hgen, -⟩ := exists_generate_pingPong
    have hempty : ({} : FileTree).Named := .directory (by simp) (by simp)
    have hcopied : ∀ target,
        (CommandLine.collect none target gen.bundle).run.Runs {} (.ok (0, gen.bundle)) {} :=
      fun _ => .done _ _
    have hreadme : gen.bundle.insert "README.txt" .instructions "setup\n" = .ok _ :=
      Bundle.insert_eq_ok.mpr ⟨instructions_free hgen, rfl⟩
    have hb : CommandLine.Prepares (pingPong ["Echo"]) {} _ :=
      .intro hgen hempty (hcopied _) hempty (hcopied _) hreadme
    exact ⟨_, hb, (hprepared _ _ _ hb).2⟩
  · obtain ⟨path, -, -, hruns⟩ := hescaping escaping {} ⟨"../outside.rs", by decide +kernel⟩
    exact ⟨path, fun t => (hruns t _ t).mpr ⟨rfl, rfl⟩⟩

end Output

end RpcScaffold
