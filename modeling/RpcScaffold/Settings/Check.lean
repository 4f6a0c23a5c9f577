import RpcScaffold.Failure
import RpcScaffold.Files.Path
import RpcScaffold.Settings.Basic
import RpcScaffold.Text.Quoted

/-! # Which settings are accepted -/

namespace RpcScaffold.Settings

open Text

inductive Fault
  | package (value : String)
  | wirePrefix
  | serviceSuffix
  | timestampPrefix
  | crateName (label value : String)
  | layoutPath (label value : String)
  deriving Repr, DecidableEq

def Fault.message : Fault → String
  | package value => "namespace must be a dotted identifier: " ++ quoted value
  | wirePrefix => "wire_prefix must be a non-empty identifier"
  | serviceSuffix => "service_suffix must not be empty"
  | timestampPrefix => "timestamp_prefix must be an identifier fragment"
  | crateName label value => label ++ " must be a Rust identifier: " ++ quoted value
  | layoutPath label value =>
    label ++ " must be a relative path inside the output root: " ++ quoted value

/-- Identifiers with dots between them. -/
def isDotted (package : String) : Bool :=
  (split (· == '.') package.toList).all fun part => isIdentifier (String.ofList part)

def crateNames (c : CratePaths) : List (String × String) := [
  ("shared_crate", c.sharedCrate),
  ("models_module", c.modelsModule),
  ("wire_module", c.wireModule),
  ("converters_module", c.convertersModule),
  ("services_module", c.servicesModule)]

def layoutPaths (l : Layout) : List (String × String) := [
  ("schema_file", l.schemaFile),
  ("converters_dir", l.convertersDir),
  ("models_dir", l.modelsDir),
  ("adapters_dir", l.adaptersDir),
  ("services_dir", l.servicesDir),
  ("proxies_dir", l.proxiesDir),
  ("instructions_file", l.instructionsFile),
  ("manifest_file", l.manifestFile)]

/-- The first fault, in the order the settings are listed. -/
def fault? (s : Settings) : Option Fault :=
  if !isDotted s.package then some (.package s.package)
  else if !isIdentifier s.naming.wirePrefix then some .wirePrefix
  else if s.naming.serviceSuffix.isEmpty then some .serviceSuffix
  else if !s.naming.timestampPrefix.isEmpty && !isIdentifier s.naming.timestampPrefix then
    some .timestampPrefix
  else
    match (crateNames s.crates).find? fun c => !isIdentifier c.2 with
    | some (label, value) => some (.crateName label value)
    | none =>
      ((layoutPaths s.layout).find? fun p => !Path.staysInside p.2).map
        fun p => .layoutPath p.1 p.2

def check (s : Settings) : Except Failure Unit :=
  match s.fault? with
  | some fault => .error (.invalidArgument fault.message)
  | none => .ok ()

end RpcScaffold.Settings
