import RpcScaffold.Json.Basic
import RpcScaffold.Json.Place
import RpcScaffold.Text.Quoted
import RpcScaffold.Text.Shortest

/-! # Decoding JSON values

A record is written as an object, whose unknown keys are ignored, or as an array of its fields in
order. Decoding stops at the first fault: the members of an object are visited by key, and fields
that are missing at the end are reported in the order of their declaration.
-/

namespace RpcScaffold.Json

open Text

/-- Why a value was refused. The last is a fault that was found in a text by its own reader, and
its message may end in a place. -/
inductive DecodeFault
  | wrongType (found wanted : String)
  | wrongValue (found wanted : String)
  | wrongLength (length : Nat) (wanted : String)
  | missingField (name : String)
  | duplicateField (name : String)
  | unknownVariant (name : String) (known : List String)
  | other (message : String)
  deriving Repr, DecidableEq

def ticked (s : String) : String := "`" ++ s ++ "`"

def DecodeFault.message : DecodeFault → String
  | wrongType found wanted => s!"invalid type: {found}, expected {wanted}"
  | wrongValue found wanted => s!"invalid value: {found}, expected {wanted}"
  | wrongLength length wanted => s!"invalid length {length}, expected {wanted}"
  | missingField name => "missing field " ++ ticked name
  | duplicateField name => "duplicate field " ++ ticked name
  | unknownVariant name known =>
    "unknown variant " ++ ticked name ++ ", expected one of " ++ ", ".intercalate (known.map ticked)
  | other message => (Placed.ofMessage message).message

def Number.shown : Number → String
  | .nat n => "integer " ++ ticked (toString n)
  | .neg n => "integer " ++ ticked ("-" ++ toString n)
  | .real bits => "floating point " ++ ticked (doubleText bits)

/-- What a value is called when another was wanted. -/
def shown : Json → String
  | null => "null"
  | bool b => "boolean " ++ ticked (toString b)
  | number n => n.shown
  | string s => "string " ++ quoted s
  | array _ => "sequence"
  | object _ => "map"

abbrev Decoder (α : Type) := Json → Except DecodeFault α

def mismatch {α : Type} (wanted : String) (v : Json) : Except DecodeFault α :=
  .error (.wrongType v.shown wanted)

/-! ## Leaves and lists -/

def decodeString : Decoder String
  | string s => .ok s
  | v => mismatch "a string" v

def decodeBool : Decoder Bool
  | bool b => .ok b
  | v => mismatch "a boolean" v

def decodeNat : Decoder Nat
  | number (.nat n) => .ok n
  | number (.neg n) => .error (.wrongValue (Number.neg n).shown "u64")
  | v => mismatch "u64" v

def decodeList {α : Type} (item : Decoder α) : Decoder (List α)
  | array items => items.mapM item
  | v => mismatch "a sequence" v

def decodeMap {α : Type} (item : Decoder α) : Decoder (NameMap α)
  | object members => do
    let entries ← members.mapM fun m => do pure (m.1, ← item m.2)
    pure (.ofList entries)
  | v => mismatch "a map" v

def decodeOption {α : Type} (item : Decoder α) : Decoder (Option α)
  | null => .ok none
  | v => some <$> item v

/-! ## Records -/

/-- Whether a value is decoded as it was read, or out of a record that holds fields of another
record among its own. -/
inductive Origin
  | direct
  | flattened
  deriving Repr, DecidableEq

def elements (n : Nat) : String := s!"{n} element" ++ if n = 1 then "" else "s"

/-- The fault of an array with more items than the record has fields. -/
def Origin.surplus (origin : Origin) (length fields : Nat) : DecodeFault :=
  match origin with
  | .direct => .wrongLength length "fewer elements in array"
  | .flattened => .wrongLength length (elements fields ++ " in sequence")

/-- The fields of a record in order. `set` decodes one of them into a draft; a field that is not
required keeps the value of the first draft. -/
structure Record (α : Type) where
  name : String
  keys : List String
  required : List String
  draft : α
  set : String → Json → α → Except DecodeFault α

namespace Record

variable {α : Type} (r : Record α)

def ofMembers (members : List (String × Json)) : Except DecodeFault α := do
  let result ← members.foldlM (fun draft m =>
    if r.keys.contains m.1 then r.set m.1 m.2 draft else pure draft) r.draft
  match r.required.find? fun key => !(members.any (·.1 == key)) with
  | some key => throw (.missingField key)
  | none => pure result

/-- `index` fields are set already. -/
def ofItemsFrom (origin : Origin) (length index : Nat) (draft : α) :
    List String → List Json → Except DecodeFault α
  | [], [] => pure draft
  | [], _ :: _ => throw (origin.surplus length r.keys.length)
  | key :: keys, v :: rest => do
    let draft ← r.set key v draft
    ofItemsFrom origin length (index + 1) draft keys rest
  | key :: keys, [] =>
    if r.required.contains key then
      throw (.wrongLength index s!"struct {r.name} with {elements r.keys.length}")
    else ofItemsFrom origin length (index + 1) draft keys []

def decode (origin : Origin) : Decoder α
  | object members => r.ofMembers members
  | array items => r.ofItemsFrom origin items.length 0 r.draft r.keys items
  | v => mismatch ("struct " ++ r.name) v

end Record

end RpcScaffold.Json
