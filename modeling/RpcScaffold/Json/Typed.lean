import RpcScaffold.Json.Skip
import RpcScaffold.Json.Decode

/-! # Reading records from a text

A record can be decoded while its text is read. Such a text may have faults of form and of content,
and the first one that is reached counts. A fault of content is placed where the reader stood when
it had finished with the value or the bracket.
-/

namespace RpcScaffold.Json

namespace Typed

open Reader

inductive Fault
  | form (fault : SyntaxFault)
  | content (fault : DecodeFault)
  deriving Repr, DecidableEq

def Fault.message : Fault → String
  | form fault => fault.message
  | content fault => fault.message

/-- A fault, and how many bytes were left where it was noticed. -/
structure Failure where
  fault : Fault
  left : Nat
  deriving Repr, DecidableEq

abbrev Decoded (α : Type) := Except Failure (α × Bytes)

def ofResult {α : Type} (r : Result α) : Decoded α := r.mapError fun e => ⟨.form e.fault, e.left⟩

def refuse {α : Type} (fault : DecodeFault) (rest : Bytes) : Decoded α :=
  .error ⟨.content fault, rest.length⟩

/-! ## Leaves -/

/-- The fault of a value that is not what was wanted. A scalar is read first. -/
def unwanted {α : Type} (wanted : String) (b : UInt8) (s : Bytes) : Decoded α :=
  match Bracket.opened? b with
  | some .list => refuse (.wrongType (shown (.array [])) wanted) (b :: s)
  | some .object => refuse (.wrongType (shown (.object [])) wanted) (b :: s)
  | none =>
    match ofResult (scalar b s) with
    | .error e => .error e
    | .ok (v, rest) => refuse (.wrongType v.shown wanted) rest

def string (s : Bytes) : Decoded String :=
  match skipSpace s with
  | [] => ofResult (stopAt .endInValue [])
  | b :: r => if ascii b = '"' then ofResult (stringBody r) else unwanted "a string" b r

def option {α : Type} (item : Bytes → Decoded α) (s : Bytes) : Decoded (Option α) :=
  match skipSpace s with
  | [] => (item []).map fun p => (some p.1, p.2)
  | b :: r =>
    if ascii b = 'n' then
      (ofResult (expectWord ['u', 'l', 'l'] r)).map fun p => (none, p.2)
    else (item (b :: r)).map fun p => (some p.1, p.2)

/-! ## What separates the entries -/

/-- Whether a list goes on: up to its next item, or after its closing bracket. -/
def nextItem (first : Bool) (s : Bytes) : Result Bool :=
  match skipSpace s with
  | [] => stopAt .endInList []
  | b :: r =>
    if ascii b = ']' then .ok (false, r)
    else if first then .ok (true, b :: r)
    else if ascii b = ',' then
      match skipSpace r with
      | [] => stopAt .endInValue []
      | c :: r => if ascii c = ']' then stopAt .trailingComma (c :: r) else .ok (true, c :: r)
    else stopAt .expectedCommaOrBracket (b :: r)

/-- The closing bracket of a list whose items are all read. -/
def lastItem (s : Bytes) : Result Unit :=
  match skipSpace s with
  | [] => stopAt .endInList []
  | b :: r =>
    if ascii b = ']' then .ok ((), r)
    else if ascii b = ',' then
      match skipSpace r with
      | [] => stopAt .trailingCharacters []
      | c :: r =>
        stopAt (if ascii c = ']' then .trailingComma else .trailingCharacters) (c :: r)
    else stopAt .trailingCharacters (b :: r)

/-- Whether an object goes on: after the opening quote of its next key, or after its closing
brace. -/
def nextMember (first : Bool) (s : Bytes) : Result Bool :=
  match skipSpace s with
  | [] => stopAt .endInObject []
  | b :: r =>
    if ascii b = '\x7d' then .ok (false, r)
    else if first then
      if ascii b = '"' then .ok (true, r) else stopAt .keyMustBeString (b :: r)
    else if ascii b = ',' then
      match skipSpace r with
      | [] => stopAt .endInValue []
      | c :: r =>
        if ascii c = '"' then .ok (true, r)
        else if ascii c = '\x7d' then stopAt .trailingComma (c :: r)
        else stopAt .keyMustBeString (c :: r)
    else stopAt .expectedCommaOrBrace (b :: r)

def colon (s : Bytes) : Result Unit :=
  match skipSpace s with
  | [] => stopAt .endInObject []
  | b :: r => if ascii b = ':' then .ok ((), r) else stopAt .expectedColon (b :: r)

/-- What is left after an object that is given up: its closing brace is taken if it comes next. -/
def giveUpObject (s : Bytes) : Bytes :=
  match skipSpace s with
  | [] => []
  | b :: r => if ascii b = '\x7d' then r else b :: r

/-! ## Records -/

/-- The fields of a record in order. `read` reads one of them into a draft; in an object a field
that is not required may be missing and keeps the value of the first draft. -/
structure Record (α : Type) where
  name : String
  keys : List String
  required : List String
  draft : α
  read : String → α → Bytes → Decoded α

namespace Record

variable {α : Type} (r : Record α)

/-- A list has an item for every field. -/
def items (index : Nat) (draft : α) : List String → Bytes → Decoded α
  | [], s => (ofResult (lastItem s)).map fun p => (draft, p.2)
  | key :: keys, s =>
    match nextItem (index == 0) s with
    | .error e => .error ⟨.form e.fault, e.left⟩
    | .ok (false, rest) =>
      refuse (.wrongLength index s!"struct {r.name} with {elements r.keys.length}") rest
    | .ok (true, s) =>
      match r.read key draft s with
      | .error e => .error e
      | .ok (draft, s) => items (index + 1) draft keys s

/-- A field after its key. -/
def member (key : String) (seen : List String) (draft : α) (s : Bytes) : Decoded α :=
  if seen.contains key then refuse (.duplicateField key) (giveUpObject s)
  else
    match ofResult (colon s) with
    | .error e => .error e
    | .ok ((), s) =>
      if r.keys.contains key then r.read key draft s
      else (ofResult (skipValue s)).map fun p => (draft, p.2)

/-- The members of an object. `seen` holds the fields that are read already, and `fuel` bounds the
number of members by the number of bytes that were left at the opening brace. -/
def members : Nat → List String → Bool → α → Bytes → Decoded α
  | 0, _, _, _, s => ofResult (stop .endInObject s)
  | fuel + 1, seen, first, draft, s =>
    match nextMember first s with
    | .error e => .error ⟨.form e.fault, e.left⟩
    | .ok (false, rest) =>
      match r.required.find? fun key => !seen.contains key with
      | some key => refuse (.missingField key) rest
      | none => .ok (draft, rest)
    | .ok (true, s) =>
      match ofResult (stringBody s) with
      | .error e => .error e
      | .ok (key, s) =>
        match r.member key seen draft s with
        | .error e => .error e
        | .ok (draft, s) =>
          members fuel (if r.keys.contains key then key :: seen else seen) false draft s

def decode (s : Bytes) : Decoded α :=
  match skipSpace s with
  | [] => ofResult (stopAt .endInValue [])
  | b :: s =>
    match Bracket.opened? b with
    | some .list => r.items 0 r.draft r.keys s
    | some .object => r.members (s.length + 1) [] true r.draft s
    | none => unwanted ("struct " ++ r.name) b s

/-- A record with nothing but space around it. -/
def decodeAll (s : Bytes) : Except Failure α :=
  match r.decode s with
  | .error e => .error e
  | .ok (a, rest) =>
    match skipSpace rest with
    | [] => .ok a
    | b :: rest => .error ⟨.form .trailingCharacters, (b :: rest).length - 1⟩

/-- The record, or the message of the first fault. -/
def parse (s : Bytes) : Except String α :=
  (r.decodeAll s).mapError fun e => located s e.fault.message e.left

end Record

end Typed

end RpcScaffold.Json
