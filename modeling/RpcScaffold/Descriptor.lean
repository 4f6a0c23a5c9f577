import RpcScaffold.Failure
import RpcScaffold.Json.Printer
import RpcScaffold.Json.Reader
import RpcScaffold.Registry.Decode
import RpcScaffold.Registry.Encode

/-! # Descriptor files

A descriptor file is a registry in JSON, with a version and perhaps with settings. Reading has a
limit on the size of the text.
-/

namespace RpcScaffold

open Json

structure Descriptor where
  version : String := "v1"
  settings : Option Settings := none
  registry : Registry := {}
  deriving Repr, DecidableEq, Inhabited

namespace Descriptor

/-- The one version that is understood. -/
def currentVersion : String := "v1"

/-- Two mebibytes. -/
def defaultLimit : Nat := 2 * 1024 * 1024

def encode (d : Descriptor) : Json :=
  .object ([("version", .string d.version),
    ("config", (d.settings.map Settings.encode).getD .null)] ++ d.registry.members)

def bytes (v : Json) : List UInt8 := v.print.toUTF8.data.toList

/-! ## Reading -/

/-- JSON of at most `limit` bytes. -/
def readJson (text : List UInt8) (limit : Nat) : Except Failure Json :=
  if text.length > limit then
    .error (.invalidArgument s!"descriptor too large ({text.length} bytes > limit {limit})")
  else (Json.parse text).mapError fun e => .serialization s!"failed to parse JSON: {e}"

def member {α : Type} (members : List (String × Json)) (key : String) (missing : α)
    (item : Decoder α) : Except DecodeFault α :=
  match members.lookup key with
  | some v => item v
  | none => .ok missing

/-- Settings and version come first, then models and services. -/
def decode (members : List (String × Json)) : Except DecodeFault Descriptor := do
  let settings ← member members "config" none (decodeOption Settings.decode)
  let version ← member members "version" currentVersion decodeString
  let models ← member members "models" [] (decodeList (Model.decode .flattened))
  let services ← member members "services" [] (decodeList (Service.decode .flattened))
  pure { version, settings, registry := { models, services } }

def parse (text : List UInt8) (limit : Nat) : Except Failure Descriptor := do
  match ← readJson text limit with
  | .object members =>
    let d ← (decode members).mapError fun f =>
      .serialization ("failed to decode descriptor: " ++ f.message)
    if d.version = currentVersion then pure d
    else throw (.invalidArgument s!"unsupported descriptor version: {d.version}")
  | _ => throw (.invalidArgument "descriptor must be a JSON object")

/-- The settings of the file, or the usual ones. -/
def settingsOrDefault (d : Descriptor) : Settings := d.settings.getD {}

end Descriptor

end RpcScaffold
