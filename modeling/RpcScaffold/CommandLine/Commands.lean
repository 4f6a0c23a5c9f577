import RpcScaffold.CommandLine.Arguments
import RpcScaffold.CommandLine.Outcome
import RpcScaffold.CopiedSources
import RpcScaffold.Descriptor
import RpcScaffold.Generation
import RpcScaffold.Graph.Encode
import RpcScaffold.Instructions
import RpcScaffold.Output.Write

/-! # The commands

Each command reads a descriptor file and ends in the text it prints.
-/

namespace RpcScaffold.CommandLine

abbrev Action := ExceptT CommandFailure FileProgram

def orFail {α : Type} (r : Except Failure α) : Action α :=
  ExceptT.mk (pure (r.mapError fun f => { message := f.message }))

def printJson (v : Json) : String := v.printPretty ++ "\n"

def number (n : Nat) : Json := .number (.nat n)

def ofFileFailure (f : FileFailure) : CommandFailure := { message := f.message, causes := f.causes }

/-! ## Descriptors -/

def loadDescriptor (path : String) : Action Descriptor :=
  ExceptT.mk do
    match ← FileProgram.read path with
    | .error fault =>
      pure (.error (({ message := fault.text, causes := fault.causes } : CommandFailure).within
        ("failed to read descriptor " ++ path)))
    | .ok content =>
      let parsed := Descriptor.parse content.data.toList Descriptor.defaultLimit
      pure (parsed.mapError fun f =>
        ({ message := f.message } : CommandFailure).within ("invalid descriptor " ++ path))

/-- The settings of the descriptor, with the package of the command line. -/
def settingsOf (d : Descriptor) (package : Option String) : Settings :=
  let s := d.settingsOrDefault
  { s with package := package.getD s.package }

/-! ## Check -/

def checkReport (json : Bool) (g : ServiceGraph) : String :=
  if json then
    printJson (.object [("status", .string "OK"),
      ("services", .array (g.records.map ServiceRecord.encode)),
      ("messages", .array (g.messages.toList.map fun m => .string m.name))])
  else
    let line (r : ServiceRecord) : String :=
      let counts := s!"({r.methods.length} methods, {r.referencedModels.length} models)"
      statusLine "service" s!"{r.serviceName} -> {r.shortName} {counts}"
    String.join (g.records.map line)
      ++ statusLine "ok" s!"{g.records.length} services, {g.messages.size} messages"

def runCheck (json : Bool) (descriptor : String) : Action String := do
  let d ← loadDescriptor descriptor
  let g ← orFail (check d.registry d.settingsOrDefault)
  pure (checkReport json g)

/-! ## Schema -/

def runSchema (json : Bool) (descriptor : String) (package : Option String) : Action String := do
  let d ← loadDescriptor descriptor
  let s := settingsOf d package
  let g ← orFail (generate d.registry s)
  match g.bundle.get? s.layout.schemaFile with
  | none => throw { message := "no schema staged at " ++ s.layout.schemaFile }
  | some a =>
    if json then
      pure (printJson (.object [("namespace", .string s.package), ("schema", .string a.text)]))
    else pure a.text

/-! ## Generate -/

def collect (directory : Option String) (target : String) (b : Bundle) : Action (Nat × Bundle) :=
  match directory with
  | none => pure (0, b)
  | some directory =>
    ExceptT.mk do
      match ← CopiedSources.collect directory target b with
      | (.ok n, b) => pure (.ok (n, b))
      | (.error f, _) => pure (.error (ofFileFailure f))

/-- What is known of a generation before anything is written. -/
structure Prepared where
  settings : Settings
  stats : GenerationStats
  copied : Nat
  bundle : Bundle

def versions (offline : Bool) : Except CommandFailure PackageVersions :=
  if offline then .ok .pinned
  else .error { message := VersionFault.message (.unreachable "async-trait" "no connection") }

/-- Generates, collects the sources to copy, and adds the instructions. -/
def prepare (a : GenerateArguments) : Action Prepared := do
  let d ← loadDescriptor a.descriptor
  let s := settingsOf d a.package
  let g ← orFail (generate d.registry s)
  let (models, bundle) ← collect a.modelsDirectory s.layout.modelsDir g.bundle
  let (services, bundle) ← collect a.servicesDirectory s.layout.servicesDir bundle
  let known ← ExceptT.mk (pure (versions a.offline))
  let readme := Instructions.render g.graph s known
  let bundle ← orFail (bundle.insert s.layout.instructionsFile .instructions readme)
  pure { settings := s, stats := g.stats, copied := models + services, bundle }

def writeTo (output : String) (p : Prepared) : Action WriteSummary :=
  ExceptT.mk do
    let r ← (Output.writeBundle output p.bundle p.settings.layout p.settings.package).run
    pure (r.mapError fun f => (ofFileFailure f).within ("failed to write output to " ++ output))

def encodeStats (s : GenerationStats) : Json :=
  .object [("services", number s.services), ("messages", number s.messages),
    ("converters", number s.converters), ("adapters", number s.adapters),
    ("proxies", number s.proxies), ("artifacts", number s.artifacts), ("bytes", number s.bytes)]

/-- The report of a generation that wrote as `summary` says, or nothing. -/
def generateReport (json : Bool) (a : GenerateArguments) (p : Prepared)
    (summary : Option WriteSummary) : String :=
  let done := summary.getD {}
  if json then
    printJson (.object [("status", .string "OK"), ("namespace", .string p.settings.package),
      ("out_dir", .string a.output), ("dry_run", .bool a.dryRun), ("stats", encodeStats p.stats),
      ("copied_sources", number p.copied), ("written", number done.written),
      ("removed", number done.removed), ("artifacts", .array (p.bundle.paths.map .string))])
  else
    let files :=
      match summary with
      | some s => [statusLine "generated" s.text, statusLine "output" a.output]
      | none => p.bundle.paths.map (statusLine "would write")
    let counts := s!"{p.stats.services} services, {p.stats.messages} messages"
    String.join files ++ statusLine "OK" s!"{counts}, {p.bundle.size} artifacts"

def runGenerate (json : Bool) (a : GenerateArguments) : Action String := do
  let p ← prepare a
  if a.dryRun then pure (generateReport json a p none)
  else
    let summary ← writeTo a.output p
    pure (generateReport json a p (some summary))

/-! ## All of them -/

def runCommand (i : Invocation) : Action String :=
  match i.command with
  | .generate a => runGenerate i.json a
  | .check descriptor => runCheck i.json descriptor
  | .schema descriptor package => runSchema i.json descriptor package

def programName : String := "protowiz"

def usage : String :=
  "Usage: " ++ programName ++
    " [--json] [--log-json] <generate|check|schema> <DESCRIPTOR> [OPTIONS]\n"

def stopped : Stop → Outcome
  | .version => { code := 0, stdout := s!"{programName} {generatorVersion}\n", stderr := "" }
  | .help => { code := 0, stdout := usage, stderr := "" }
  | .misuse message => { code := 2, stdout := "", stderr := s!"error: {message}\n\n{usage}" }

def run (arguments : List String) : FileProgram Outcome :=
  match parse arguments with
  | .error stop => pure (stopped stop)
  | .ok invocation => do
    match ← (runCommand invocation).run with
    | .ok stdout => pure { code := 0, stdout, stderr := "" }
    | .error failure => pure failure.outcome

end RpcScaffold.CommandLine
