import RpcScaffold.DomainType.Basic
import RpcScaffold.Failure
import RpcScaffold.Identifier
import RpcScaffold.Text.Blank

/-! # Type expressions

`string[]`, `list<Person>`, `map<string, int32>`: white space may surround every part, the words
`list` and `map` have aliases in any ASCII case, and a word that is no keyword names a model.
-/

namespace RpcScaffold.DomainType

open Text

inductive ExprFault
  | empty
  | mapArguments (expression : String)
  | notAType (expression : String)
  deriving Repr, DecidableEq

namespace ExprFault

def message : ExprFault → String
  | empty => "empty type expression"
  | mapArguments e => s!"map type needs two arguments: {e}"
  | notAType e => s!"invalid type expression: {e}"

def failure (f : ExprFault) : Failure := .invalidArgument f.message

end ExprFault

/-! ## Parts of an expression -/

/-- `T` of `T[]`. -/
def arrayPart? (s : List Char) : Option (List Char) :=
  match s.reverse with
  | ']' :: '[' :: r => some r.reverse
  | _ => none

/-- The text before the first angle bracket, in lower case. -/
def headOf (s : List Char) : String := String.ofList ((s.takeWhile (· != '<')).map Char.toLower)

/-- The inside of `head<…>` for a head among `heads`, in any ASCII case. -/
def genericPart? (heads : List String) (s : List Char) : Option (List Char) :=
  match s.dropWhile (· != '<') with
  | [] => none
  | _ :: inside =>
    if inside.getLast? = some '>' ∧ headOf s ∈ heads then some inside.dropLast else none

def depthAfter (depth : Nat) (c : Char) : Nat :=
  if c = '<' then depth + 1 else if c = '>' then depth - 1 else depth

/-- The two sides of the first comma outside all angle brackets. -/
def commaParts? (depth : Nat) : List Char → Option (List Char × List Char)
  | [] => none
  | c :: rest =>
    if c = ',' ∧ depth = 0 then some ([], rest)
    else (commaParts? (depthAfter depth c) rest).map fun parts => (c :: parts.1, parts.2)

def keyword? : String → Option DomainType
  | "int8" | "i8" => some int8
  | "int16" | "i16" => some int16
  | "int32" | "i32" => some int32
  | "int64" | "i64" => some int64
  | "uint8" | "u8" | "byte" => some uint8
  | "uint16" | "u16" => some uint16
  | "uint32" | "u32" => some uint32
  | "uint64" | "u64" => some uint64
  | "bool" => some bool
  | "float" | "f32" => some float
  | "double" | "f64" => some double
  | "decimal" => some decimal
  | "string" | "String" => some string
  | "char" => some char
  | "timestamp" => some timestamp
  | "bytes" => some bytes
  | _ => none

def listHeads : List String := ["list", "vec"]

def mapHeads : List String := ["map", "hashmap", "btreemap"]

/-! ## Every part is shorter than the whole -/

theorem trim_length_le (cs : List Char) : (trim cs).length ≤ cs.length := by
  have h := (List.dropWhile_suffix isBlank (l := (trimStart cs).reverse)).length_le
  have h' := (List.dropWhile_suffix isBlank (l := cs)).length_le
  simp only [trim, trimEnd, trimStart, List.length_reverse] at *
  omega

theorem arrayPart?_length_lt {s inner : List Char} (h : arrayPart? s = some inner) :
    inner.length < s.length := by
  unfold arrayPart? at h
  split at h
  · next r hr =>
    have := congrArg List.length hr
    simp at this h
    subst h
    simp
    omega
  · simp at h

theorem genericPart?_length_lt {heads : List String} {s inner : List Char}
    (h : genericPart? heads s = some inner) : inner.length < s.length := by
  unfold genericPart? at h
  split at h
  · simp at h
  · next inside hs =>
    have := (List.dropWhile_suffix (· != '<') (l := s)).length_le
    rw [hs] at this
    simp only [List.length_cons] at this
    split at h
    · simp only [Option.some.injEq] at h
      subst h
      simp
      omega
    · simp at h

theorem commaParts?_length_lt {s k v : List Char} {depth : Nat}
    (h : commaParts? depth s = some (k, v)) : k.length < s.length ∧ v.length < s.length := by
  induction s generalizing depth k with
  | nil => simp [commaParts?] at h
  | cons c rest ih =>
    simp only [commaParts?] at h
    split at h
    · simp at h
      obtain ⟨rfl, rfl⟩ := h
      simp
    · simp only [Option.map_eq_some_iff, Prod.mk.injEq] at h
      obtain ⟨⟨k', v'⟩, hp, rfl, rfl⟩ := h
      have := ih hp
      simp only [List.length_cons] at *
      omega

/-! ## Reading -/

def parseWord (word : String) : Except ExprFault DomainType :=
  match keyword? word with
  | some t => .ok t
  | none => if isIdentifier word then .ok (named word) else .error (.notAType word)

/-- Reads the outermost form first: `[]` at the end, then a generic head, then a word. -/
def parseChars (cs : List Char) : Except ExprFault DomainType :=
  if trim cs = [] then .error .empty
  else
    match _ha : arrayPart? (trim cs) with
    | some inner => array <$> parseChars inner
    | none =>
      match _hl : genericPart? listHeads (trim cs) with
      | some inner => list <$> parseChars inner
      | none =>
        match _hm : genericPart? mapHeads (trim cs) with
        | some inside =>
          match _hc : commaParts? 0 inside with
          | none => .error (.mapArguments (String.ofList (trim cs)))
          | some (k, v) => do
            let key ← parseChars k
            let value ← parseChars v
            pure (map key value)
        | none => parseWord (String.ofList (trim cs))
termination_by cs.length
decreasing_by
  all_goals have hs := trim_length_le cs
  · have := arrayPart?_length_lt _ha; omega
  · have := genericPart?_length_lt _hl; omega
  · have := genericPart?_length_lt _hm
    have := commaParts?_length_lt _hc
    omega
  · have := genericPart?_length_lt _hm
    have := commaParts?_length_lt _hc
    omega

def parse (expression : String) : Except ExprFault DomainType := parseChars expression.toList

end RpcScaffold.DomainType
