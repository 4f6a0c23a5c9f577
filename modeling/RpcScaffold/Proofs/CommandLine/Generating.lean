import RpcScaffold.Proofs.CommandLine.Preparing
import RpcScaffold.Proofs.Descriptor.RoundTrip
import RpcScaffold.Proofs.Output.Inside

/-!
# What a generation reports

The numbers of a report are those of the artifacts it lists. A dry run lists what a run writes.
-/

namespace RpcScaffold

open FileAction FileProgram

variable {t t' : FileTree}

/-! ## The number of files written -/

namespace Output

open WritePlan

theorem written_of_clear {p : WritePlan} {summary : WriteSummary} (hr : (do
      let removed ← p.resets.foldlM (fun n directory => do pure (n + (← clearFiles directory))) 0
      p.targets.forM fun t => writeFile t.1 t.2
      writeFile p.manifestPath p.manifest
      pure { written := p.targets.length, removed, bytes := Text.totalSize (p.targets.map (·.2)) }
      : FileAction WriteSummary).run.Runs t (.ok summary) t') : summary.written = p.targets.length := by
  obtain ⟨removed, t₁, -, hr⟩ := runs_bind_ok.mp hr
  obtain ⟨-, t₂, -, hr⟩ := runs_bind_ok.mp hr
  obtain ⟨-, t₃, -, hr⟩ := runs_bind_ok.mp hr
  rw [Except.ok.inj (FileAction.runs_pure.mp hr).1]

/-- A write that succeeds has written every target, whatever stood there before. -/
theorem written_of_carryOut {p : WritePlan} {summary : WriteSummary}
    (hr : (carryOut p).run.Runs t (.ok summary) t') : summary.written = p.targets.length := by
  obtain ⟨isFile, t₁, -, hr⟩ := runs_bind_ok.mp hr
  dsimp only at hr
  split_ifs at hr
  · obtain ⟨-, t₂, -, hr⟩ := runs_bind_ok.mp hr
    exact written_of_clear hr
  · exact written_of_clear hr

theorem written_of_writeBundle {root package : String} {b : Bundle} {l : Layout}
    {summary : WriteSummary} (hr : (writeBundle root b l package).run.Runs t (.ok summary) t') :
    summary.written = b.size := by
  rw [writeBundle] at hr
  obtain ⟨-, hplan⟩ | ⟨path, -, -, hplan⟩ := ofBundle_cases root b l package
  · rw [hplan] at hr
    rw [written_of_carryOut hr, planOf_targets, length_targetsOf]
  · rw [hplan] at hr
    cases (FileProgram.runs_pure.mp hr).1

end Output

namespace CommandLine

variable {json : Bool} {a : GenerateArguments} {p : Prepared}

theorem written_of_writeTo {output : String} {summary : WriteSummary}
    (hr : (writeTo output p).run.Runs t (.ok summary) t') :
    summary.written = p.bundle.paths.length := by
  obtain ⟨result, u, hwrite, hr⟩ := FileProgram.runs_bind.mp hr
  have hresult := mapError_eq_ok.mp (FileProgram.runs_pure.mp hr).1.symm
  rw [hresult] at hwrite
  rw [Output.written_of_writeBundle hwrite]
  exact (List.length_map _).symm

/-! ## Reports -/

/-- What a report in JSON says of the artifacts. -/
structure Reports (report : Json) (p : Prepared) (written : Nat) : Prop where
  artifacts : report.get? "artifacts" = some (.array (p.bundle.paths.map .string))
  staged : (report.get? "stats").bind (·.get? "artifacts") = some (number p.stats.artifacts)
  copied : report.get? "copied_sources" = some (number p.copied)
  written : report.get? "written" = some (number written)

theorem exists_reports (a : GenerateArguments) (p : Prepared) (summary : Option WriteSummary) :
    ∃ report, generateReport true a p summary = printJson report ∧
      Reports report p (summary.getD {}).written :=
  ⟨_, rfl, rfl, rfl, rfl, rfl⟩

/-! ## Runs -/

/-- How a generation ends. Nothing is changed before the write, and what was prepared is the same in
all runs. -/
inductive Generates (json : Bool) (a : GenerateArguments) (t : FileTree) :
    Except CommandFailure String → FileTree → Prop
  | unprepared {e : CommandFailure} (h : (prepare a).run.Runs t (.error e) t) :
    Generates json a t (.error e) t
  | dry {p : Prepared} (hdry : a.dryRun = true) (hp : (prepare a).run.runOn t = (.ok p, t)) :
    Generates json a t (.ok (generateReport json a p none)) t
  | unwritten {p : Prepared} {e : CommandFailure} {t' : FileTree} (hdry : a.dryRun = false)
      (hp : (prepare a).run.runOn t = (.ok p, t))
      (h : (writeTo a.output p).run.Runs t (.error e) t') : Generates json a t (.error e) t'
  | written {p : Prepared} {summary : WriteSummary} {t' : FileTree} (hdry : a.dryRun = false)
      (hp : (prepare a).run.runOn t = (.ok p, t))
      (h : (writeTo a.output p).run.Runs t (.ok summary) t')
      (hwritten : summary.written = p.bundle.paths.length) :
    Generates json a t (.ok (generateReport json a p (some summary))) t'

theorem generates_of_runs {r : Except CommandFailure String}
    (hr : (runGenerate json a).run.Runs t r t') : Generates json a t r t' := by
  obtain ⟨e, hprepare, rfl⟩ | ⟨p, u, hprepare, hrest⟩ := FileAction.runs_bind.mp hr
  · obtain ⟨rfl, -⟩ := onlyLooks_prepare a _ _ _ hprepare
    exact .unprepared hprepare
  obtain ⟨rfl, hrun⟩ := onlyLooks_prepare a _ _ _ hprepare
  have hp := hrun (succeeds_ok p)
  split_ifs at hrest with hdry
  · obtain ⟨rfl, rfl⟩ := FileAction.runs_pure.mp hrest
    exact .dry hdry hp
  have hdry : a.dryRun = false := by simpa using hdry
  obtain ⟨e, hwrite, rfl⟩ | ⟨summary, v, hwrite, hreport⟩ := FileAction.runs_bind.mp hrest
  · exact .unwritten hdry hp hwrite
  · obtain ⟨rfl, rfl⟩ := FileAction.runs_pure.mp hreport
    exact .written hdry hp hwrite (written_of_writeTo hwrite)

theorem runOn_dry (hp : (prepare a).run.runOn t = (.ok p, t)) :
    (runGenerate json { a with dryRun := true }).run.runOn t =
      (.ok (generateReport json { a with dryRun := true } p none), t) := by
  have hprepare : (prepare { a with dryRun := true }).run.runOn t = (.ok p, t) := hp
  rw [runGenerate, ExceptT.run_bind, runOn_bind, hprepare]
  rfl

/-- A generation that fails before the write, or is dry, changes nothing. What is prepared depends
neither on faults nor on `dryRun`, and its artifacts are the ones reported, in the order of their
paths: those of the generation, the copies and the instructions. As many files are written. -/
theorem generate_accounted {r : Except CommandFailure String}
    (hr : (runGenerate json a).run.Runs t r t') : Generates json a t r t' ∧
    ∀ p, (prepare a).run.runOn t = (.ok p, t) → p.Accounted ∧
      (∀ summary, ∃ report, generateReport true a p summary = printJson report ∧
        Reports report p (summary.getD {}).written) ∧
      ∀ json, (runGenerate json { a with dryRun := true }).run.runOn t =
        (.ok (generateReport json { a with dryRun := true } p none), t) := by
  refine ⟨generates_of_runs hr, fun p hp => ⟨?_, exists_reports a p, fun json => runOn_dry hp⟩⟩
  have hruns := FileProgram.runs_runOn (prepare a).run t
  rw [hp] at hruns
  exact accounted_of_prepare hruns

/-! ## An example -/

def pingPongFile : Descriptor where
  registry := pingPong ["Echo"]

/-- A tree with one file. -/
def holding (name : String) (content : List UInt8) : FileTree where
  entries := [(name, .file ⟨content.toArray⟩)]

def described : FileTree := holding "ping.json" (Descriptor.bytes pingPongFile.encode)

def rehearsal : GenerateArguments where
  descriptor := "ping.json"
  offline := true
  dryRun := true

theorem parse_pingPongFile :
    Descriptor.parse (Descriptor.bytes pingPongFile.encode) Descriptor.defaultLimit =
      .ok pingPongFile := by
  refine Descriptor.parse_of_elided rfl ?_ (.same _) ?_
  · have hping : DomainType.Proper (.named "Ping") := .word (by decide) rfl
    have hpong : DomainType.Proper (.named "Pong") := .word (by decide) rfl
    have hproper : ∀ t ∈ pingPongFile.registry.types, t.Proper := by
      change ∀ t ∈ [DomainType.named "Pong", .list (.named "Ping"), .named "Pong", .named "Ping",
        .named "Ping"], t.Proper
      simp [hping, hpong, hping.list]
    exact fun t ht => ⟨_, (hproper t ht).parseChars⟩
  · rw [Json.bytes_eq]
    decide +kernel

theorem runs_loadDescriptor {content : List UInt8} {d : Descriptor}
    (h : Descriptor.parse content Descriptor.defaultLimit = .ok d) :
    (loadDescriptor "ping.json").run.Runs (holding "ping.json" content) (.ok d)
      (holding "ping.json" content) := by
  have hread : (FileProgram.read "ping.json").Runs (holding "ping.json" content)
      (.ok ⟨content.toArray⟩) (holding "ping.json" content) := FileProgram.runs_runOn _ _
  refine FileProgram.runs_bind.mpr ⟨_, _, hread, FileProgram.runs_pure.mpr ⟨?_, rfl⟩⟩
  rw [List.toList_toArray, h]
  rfl

theorem exists_prepare_described : ∃ p,
    (prepare rehearsal).run.runOn described = (.ok p, described) := by
  obtain ⟨gen, hgen, -⟩ := exists_generate_pingPong
  obtain ⟨complete, hreadme⟩ : ∃ complete, gen.bundle.insert "README.txt" .instructions
      (Instructions.render gen.graph {} .pinned) = .ok complete :=
    ⟨_, Bundle.insert_eq_ok.mpr ⟨Output.instructions_free hgen, rfl⟩⟩
  have hcollect (target : String) :
      (collect none target gen.bundle).run.Runs described (.ok (0, gen.bundle)) described :=
    .done _ _
  have hprepare : (prepare rehearsal).run.Runs described (.ok ⟨{}, gen.stats, 0, complete⟩)
      described := by
    refine runs_bind_ok.mpr ⟨_, described, runs_loadDescriptor parse_pingPongFile, ?_⟩
    refine runs_bind_ok.mpr ⟨gen, described, runs_orFail.mpr ⟨hgen, rfl⟩, ?_⟩
    refine runs_bind_ok.mpr ⟨_, described, hcollect _, ?_⟩
    refine runs_bind_ok.mpr ⟨_, described, hcollect _, ?_⟩
    refine runs_bind_ok.mpr ⟨.pinned, described, .done _ _, ?_⟩
    exact runs_bind_ok.mpr ⟨complete, described, runs_orFail.mpr ⟨hreadme, rfl⟩, .done _ _⟩
  exact ⟨_, (onlyLooks_prepare _ _ _ _ hprepare).2 (succeeds_ok _)⟩

theorem generate_accounted_described : ∃ p : Prepared,
    (runGenerate true rehearsal).run.runOn described =
      (.ok (generateReport true rehearsal p none), described) ∧ p.Accounted := by
  obtain ⟨p, hp⟩ := exists_prepare_described
  have hr := FileProgram.runs_runOn (runGenerate true rehearsal).run described
  obtain ⟨haccounted, -, hdry⟩ := (generate_accounted hr).2 p hp
  exact ⟨p, hdry true, haccounted⟩

end CommandLine

end RpcScaffold
