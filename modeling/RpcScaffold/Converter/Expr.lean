import RpcScaffold.Message.Basic
import RpcScaffold.Naming

/-! # Field expressions of a converter

How one field crosses between the domain and the wire. An expression is data: it can be printed as
code of the generated module, and it can be given a meaning.
-/

namespace RpcScaffold.Converter

/-- A function of a converter module. -/
structure Function where
  module : String
  name : String
  deriving Repr, DecidableEq, Inhabited

/-- As a sibling module calls it. -/
def Function.sibling (f : Function) : String := s!"super::{f.module}::{f.name}"

/-- As a module calls it that imports the converter module. -/
def Function.imported (f : Function) : String := s!"{f.module}::{f.name}"

inductive Expr
  /-- A field of the value that is converted. -/
  | field (name : String)
  /-- The variable that a closure binds. -/
  | bound
  | call (f : Function) (e : Expr)
  | toMillis (e : Expr)
  | ofMillis (e : Expr)
  | toDouble (e : Expr)
  | ofDouble (e : Expr)
  /-- A default in place of an absent value. -/
  | orDefault (e : Expr)
  /-- The function under an option. -/
  | mapCall (e : Expr) (f : Function)
  /-- The closure under an option. -/
  | mapClosure (e body : Expr)
  /-- The closure on every element. -/
  | mapElements (e body : Expr)
  /-- Present if the sequence has elements. -/
  | unlessEmpty (e : Expr)
  /-- `body`, present if the sequence `e` has elements. -/
  | unlessEmptyThen (e body : Expr)
  deriving Repr, DecidableEq, Inhabited

def Expr.code : Expr → String
  | field name => "item." ++ name
  | bound => "v"
  | call f e => f.sibling ++ "(" ++ e.code ++ ")"
  | toMillis e => e.code ++ ".timestamp_millis()"
  | ofMillis e =>
    "chrono::DateTime::<chrono::Utc>::from_timestamp_millis(" ++ e.code ++ ").unwrap_or_default()"
  | toDouble e => e.code ++ ".to_f64().unwrap_or_default()"
  | ofDouble e => "rust_decimal::Decimal::from_f64(" ++ e.code ++ ").unwrap_or_default()"
  | orDefault e => e.code ++ ".unwrap_or_default()"
  | mapCall e f => e.code ++ ".map(" ++ f.sibling ++ ")"
  | mapClosure e body => e.code ++ ".map(|v| " ++ body.code ++ ")"
  | mapElements e body => e.code ++ ".into_iter().map(|v| " ++ body.code ++ ").collect()"
  | unlessEmpty e => "(!" ++ e.code ++ ".is_empty()).then_some(" ++ e.code ++ ")"
  | unlessEmptyThen e body => "(!" ++ e.code ++ ".is_empty()).then(|| " ++ body.code ++ ")"

/-! ## Crossing a single value -/

inductive Direction
  | toWire
  | toDomain
  deriving Repr, DecidableEq

/-- How a value that is no sequence crosses. -/
inductive Crossing
  | same
  | timestamp
  | decimal
  | message (model : String)
  deriving Repr, DecidableEq

def Crossing.ofType : DomainType → Crossing
  | .timestamp => .timestamp
  | .decimal => .decimal
  | .named model => .message model
  | _ => .same

/-- The function that converts a model, or a list of it. -/
def function (n : Naming) (d : Direction) (list : Bool) (model : String) : Function where
  module := Naming.converterModule model
  name :=
    match d, list with
    | .toWire, false => Naming.toWireFn model
    | .toWire, true => Naming.toWireListFn model
    | .toDomain, false => n.toDomainFn model
    | .toDomain, true => n.toDomainListFn model

def Crossing.value (c : Crossing) (n : Naming) (d : Direction) (e : Expr) : Expr :=
  match c, d with
  | .same, _ => e
  | .timestamp, .toWire => .toMillis e
  | .timestamp, .toDomain => .ofMillis e
  | .decimal, .toWire => .toDouble e
  | .decimal, .toDomain => .ofDouble e
  | .message model, d => .call (function n d false model) e

def Crossing.option (c : Crossing) (n : Naming) (d : Direction) (e : Expr) : Expr :=
  match c with
  | .same => e
  | .message model => .mapCall e (function n d false model)
  | c => .mapClosure e (c.value n d .bound)

def Crossing.sequence (c : Crossing) (n : Naming) (d : Direction) (e : Expr) : Expr :=
  match c with
  | .same => e
  | .message model => .call (function n d true model) e
  | c => .mapElements e (c.value n d .bound)

/-! ## Crossing a field -/

def fieldToWire (n : Naming) (f : Message.Field) : Expr :=
  let item := Expr.field (Naming.domainField f.name)
  let crossing := Crossing.ofType f.elementType
  match f.cardinality, f.nullable with
  | .repeated, true => crossing.sequence n .toWire (.orDefault item)
  | .repeated, false => crossing.sequence n .toWire item
  | _, true => crossing.option n .toWire item
  | _, false => crossing.value n .toWire item

/-- An absent sequence is an empty one on the wire. -/
def fieldToDomain (n : Naming) (f : Message.Field) : Expr :=
  let item := Expr.field (Naming.wireFieldIdent f.wireName)
  let crossing := Crossing.ofType f.elementType
  match f.cardinality, f.nullable with
  | .repeated, true =>
    if crossing = .same then .unlessEmpty item
    else .unlessEmptyThen item (crossing.sequence n .toDomain item)
  | .repeated, false => crossing.sequence n .toDomain item
  | _, true => crossing.option n .toDomain item
  | _, false => crossing.value n .toDomain item

end RpcScaffold.Converter
