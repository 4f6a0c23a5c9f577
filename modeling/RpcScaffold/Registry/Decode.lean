import RpcScaffold.DomainType.Expression
import RpcScaffold.Json.Decode
import RpcScaffold.Registry.Basic
import RpcScaffold.Settings.Basic

/-! # Declarations and settings from JSON -/

namespace RpcScaffold

open Json

/-! ## Types -/

def DomainType.decode (v : Json) : Except DecodeFault DomainType := do
  let expression ← decodeString v
  (DomainType.parse expression).mapError fun f => .other f.failure.message

def Returns.variants : List String := ["async", "stream", "blocking", "unit"]

def decodeUnit (origin : Origin) : Decoder Unit
  | .null => .ok ()
  | .object [] => if origin = .flattened then .ok () else mismatch "unit" (.object [])
  | v => mismatch "unit" v

/-- A variant with its payload, if it has one. -/
def Returns.decodeVariant (origin : Origin) (variant : String) (payload : Option Json) :
    Except DecodeFault Returns :=
  let typed (make : DomainType → Returns) : Except DecodeFault Returns :=
    match payload with
    | some v => make <$> DomainType.decode v
    | none => .error (.wrongType "unit variant" "newtype variant")
  match variant with
  | "async" => typed .async
  | "stream" => typed .stream
  | "blocking" => typed .blocking
  | "unit" =>
    match payload with
    | some v => (fun _ => .unit) <$> decodeUnit origin v
    | none => .ok .unit
  | _ => .error (.unknownVariant variant Returns.variants)

def Returns.decode (origin : Origin) : Decoder Returns
  | .string variant => Returns.decodeVariant origin variant none
  | .object [(variant, payload)] => Returns.decodeVariant origin variant (some payload)
  | .object _ => .error (.wrongValue "map" "map with a single key")
  | v => mismatch "string or map" v

/-! ## Declarations -/

def Model.Field.record : Json.Record Model.Field where
  name := "FieldDecl"
  keys := ["name", "type", "nullable"]
  required := ["name", "type"]
  draft := ⟨"", .bool, false⟩
  set key v d :=
    match key with
    | "name" => (fun x => { d with name := x }) <$> decodeString v
    | "type" => (fun x => { d with type := x }) <$> DomainType.decode v
    | _ => (fun x => { d with nullable := x }) <$> decodeBool v

def Model.record (origin : Origin) : Json.Record Model where
  name := "ModelDecl"
  keys := ["name", "marked", "fields"]
  required := ["name"]
  draft := ⟨"", false, []⟩
  set key v d :=
    match key with
    | "name" => (fun x => { d with name := x }) <$> decodeString v
    | "marked" => (fun x => { d with marked := x }) <$> decodeBool v
    | _ => (fun x => { d with fields := x }) <$> decodeList (Model.Field.record.decode origin) v

def Method.record (origin : Origin) : Json.Record Method where
  name := "MethodDecl"
  keys := ["name", "params", "returns"]
  required := ["name", "returns"]
  draft := ⟨"", [], .unit⟩
  set key v d :=
    match key with
    | "name" => (fun x => { d with name := x }) <$> decodeString v
    | "params" => (fun x => { d with params := x }) <$> decodeList DomainType.decode v
    | _ => (fun x => { d with returns := x }) <$> Returns.decode origin v

def Interface.record (origin : Origin) : Json.Record Interface where
  name := "InterfaceDecl"
  keys := ["name", "marked", "methods"]
  required := ["name"]
  draft := ⟨"", true, []⟩
  set key v d :=
    match key with
    | "name" => (fun x => { d with name := x }) <$> decodeString v
    | "marked" => (fun x => { d with marked := x }) <$> decodeBool v
    | _ => (fun x => { d with methods := x }) <$>
      decodeList ((Method.record origin).decode origin) v

def Service.record (origin : Origin) : Json.Record Service where
  name := "ServiceDecl"
  keys := ["name", "marked", "models", "interfaces"]
  required := ["name"]
  draft := ⟨"", true, [], []⟩
  set key v d :=
    match key with
    | "name" => (fun x => { d with name := x }) <$> decodeString v
    | "marked" => (fun x => { d with marked := x }) <$> decodeBool v
    | "models" => (fun x => { d with models := x }) <$> decodeList decodeString v
    | _ =>
      (fun x => { d with interfaces := x }) <$>
        decodeList ((Interface.record origin).decode origin) v

def Model.decode (origin : Origin) : Decoder Model := (Model.record origin).decode origin

def Method.decode (origin : Origin) : Decoder Method := (Method.record origin).decode origin

def Service.decode (origin : Origin) : Decoder Service := (Service.record origin).decode origin

/-! ## Settings -/

def Naming.record : Json.Record Naming where
  name := "NamingConfig"
  keys := ["wire_prefix", "service_suffix", "timestamp_prefix"]
  required := []
  draft := {}
  set key v d :=
    match key with
    | "wire_prefix" => (fun x => { d with wirePrefix := x }) <$> decodeString v
    | "service_suffix" => (fun x => { d with serviceSuffix := x }) <$> decodeString v
    | _ => (fun x => { d with timestampPrefix := x }) <$> decodeString v

def CratePaths.record : Json.Record CratePaths where
  name := "CratePaths"
  keys := ["shared_crate", "models_module", "wire_module", "converters_module", "services_module"]
  required := []
  draft := {}
  set key v d :=
    match key with
    | "shared_crate" => (fun x => { d with sharedCrate := x }) <$> decodeString v
    | "models_module" => (fun x => { d with modelsModule := x }) <$> decodeString v
    | "wire_module" => (fun x => { d with wireModule := x }) <$> decodeString v
    | "converters_module" => (fun x => { d with convertersModule := x }) <$> decodeString v
    | _ => (fun x => { d with servicesModule := x }) <$> decodeString v

def Layout.record : Json.Record Layout where
  name := "OutputLayout"
  keys := ["schema_file", "converters_dir", "models_dir", "adapters_dir", "services_dir",
    "proxies_dir", "instructions_file", "manifest_file"]
  required := []
  draft := {}
  set key v d :=
    match key with
    | "schema_file" => (fun x => { d with schemaFile := x }) <$> decodeString v
    | "converters_dir" => (fun x => { d with convertersDir := x }) <$> decodeString v
    | "models_dir" => (fun x => { d with modelsDir := x }) <$> decodeString v
    | "adapters_dir" => (fun x => { d with adaptersDir := x }) <$> decodeString v
    | "services_dir" => (fun x => { d with servicesDir := x }) <$> decodeString v
    | "proxies_dir" => (fun x => { d with proxiesDir := x }) <$> decodeString v
    | "instructions_file" => (fun x => { d with instructionsFile := x }) <$> decodeString v
    | _ => (fun x => { d with manifestFile := x }) <$> decodeString v

def Naming.decode : Decoder Naming := Naming.record.decode .direct

def Layout.decode : Decoder Layout := Layout.record.decode .direct

def Settings.record : Json.Record Settings where
  name := "GeneratorConfig"
  keys := ["namespace", "naming", "crates", "layout"]
  required := []
  draft := {}
  set key v d :=
    match key with
    | "namespace" => (fun x => { d with package := x }) <$> decodeString v
    | "naming" => (fun x => { d with naming := x }) <$> Naming.decode v
    | "crates" => (fun x => { d with crates := x }) <$> CratePaths.record.decode .direct v
    | _ => (fun x => { d with layout := x }) <$> Layout.decode v

def Settings.decode : Decoder Settings := Settings.record.decode .direct

end RpcScaffold
