import RpcScaffold.Bundle
import RpcScaffold.Digest.Sha256
import RpcScaffold.Json.Decode
import RpcScaffold.Json.Printer

/-! # Manifests

The manifest of a bundle lists every artifact with its size and digest. It is the last file of a
write, so a tree with a manifest is complete.
-/

namespace RpcScaffold

open Json

structure Manifest.Entry where
  path : String
  kind : String
  bytes : Nat
  sha256 : String
  deriving Repr, DecidableEq, Inhabited

structure Manifest where
  version : String
  /-- The version of the program that wrote the tree. -/
  generatorVersion : String
  /-- The package of the schema. -/
  package : String
  entries : List Manifest.Entry
  deriving Repr, DecidableEq, Inhabited

/-- The version of this program. -/
def generatorVersion : String := "0.1.0"

namespace Manifest

def Entry.ofArtifact (path : String) (a : Artifact) : Entry where
  path := path
  kind := a.kind.text
  bytes := a.text.utf8ByteSize
  sha256 := Sha256.digest a.text

def ofBundle (b : Bundle) (package : String) : Manifest where
  version := "v1"
  generatorVersion := RpcScaffold.generatorVersion
  package := package
  entries := b.toList.map fun e => Entry.ofArtifact e.1 e.2

/-! ## JSON -/

def Entry.encode (e : Entry) : Json :=
  .object [("path", .string e.path), ("kind", .string e.kind), ("bytes", .number (.nat e.bytes)),
    ("sha256", .string e.sha256)]

def encode (m : Manifest) : Json :=
  .object [("version", .string m.version), ("generatorVersion", .string m.generatorVersion),
    ("namespace", .string m.package), ("artifacts", .array (m.entries.map Entry.encode))]

/-- The text of the manifest file. -/
def text (m : Manifest) : String := m.encode.printPretty ++ "\n"

def Entry.record : Json.Record Entry where
  name := "ManifestEntry"
  keys := ["path", "kind", "bytes", "sha256"]
  required := ["path", "kind", "bytes", "sha256"]
  draft := ⟨"", "", 0, ""⟩
  set key v d :=
    match key with
    | "path" => (fun x => { d with path := x }) <$> decodeString v
    | "kind" => (fun x => { d with kind := x }) <$> decodeString v
    | "bytes" => (fun x => { d with bytes := x }) <$> decodeNat v
    | _ => (fun x => { d with sha256 := x }) <$> decodeString v

def record : Json.Record Manifest where
  name := "GenerationManifest"
  keys := ["version", "generatorVersion", "namespace", "artifacts"]
  required := ["version", "generatorVersion", "namespace", "artifacts"]
  draft := ⟨"", "", "", []⟩
  set key v d :=
    match key with
    | "version" => (fun x => { d with version := x }) <$> decodeString v
    | "generatorVersion" => (fun x => { d with generatorVersion := x }) <$> decodeString v
    | "namespace" => (fun x => { d with package := x }) <$> decodeString v
    | _ => (fun x => { d with entries := x }) <$> decodeList (Entry.record.decode .direct) v

def decode : Decoder Manifest := record.decode .direct

end Manifest

end RpcScaffold
