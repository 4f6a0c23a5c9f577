import RpcScaffold.Converter.Module
import RpcScaffold.Graph.Basic
import RpcScaffold.Proofs.Converter.Fields

/-!
# What a converter does to values

The expressions of a converter get the meaning of the methods they call, and a path to a converter
function that of the module in the graph. `RoundTrip.lean` shows that the two directions undo each
other.
-/

namespace RpcScaffold

/-- A value of generated code. All that has no parts is a leaf, bytes and texts too. -/
inductive Value (α : Type)
  | leaf (a : α)
  | absent
  | present (v : Value α)
  | sequence (vs : List (Value α))
  | record (fields : List (String × Value α))

namespace Value

variable {α : Type}

/-! ## Methods -/

/-- Of all types only sequences are read with a default. -/
def orDefault : Value α → Option (Value α)
  | absent => some (sequence [])
  | present v => some v
  | _ => none

def mapPresent (f : Value α → Option (Value α)) : Value α → Option (Value α)
  | absent => some absent
  | present v => present <$> f v
  | _ => none

def mapElements (f : Value α → Option (Value α)) : Value α → Option (Value α)
  | sequence vs => sequence <$> vs.mapM f
  | _ => none

/-- `body` is not evaluated for an empty sequence. -/
def unlessEmpty (body : Unit → Option (Value α)) : Value α → Option (Value α)
  | sequence [] => some absent
  | sequence (_ :: _) => present <$> body ()
  | _ => none

end Value

namespace Converter

/-! ## Expressions -/

/-- The methods that other crates define for timestamps and decimals. -/
structure Foreign (α : Type) where
  toMillis : Value α → Option (Value α)
  ofMillis : Value α → Option (Value α)
  toDouble : Value α → Option (Value α)
  ofDouble : Value α → Option (Value α)

structure Env (α : Type) where
  foreign : Foreign α
  call : Function → Value α → Option (Value α)
  item : List (String × Value α)

variable {α : Type}

/-- `bound` is the variable of the closure around the expression. -/
def Expr.eval (c : Env α) (bound : Option (Value α)) : Expr → Option (Value α)
  | .field name => c.item.lookup name
  | .bound => bound
  | .call f e => (e.eval c bound).bind (c.call f)
  | .toMillis e => (e.eval c bound).bind c.foreign.toMillis
  | .ofMillis e => (e.eval c bound).bind c.foreign.ofMillis
  | .toDouble e => (e.eval c bound).bind c.foreign.toDouble
  | .ofDouble e => (e.eval c bound).bind c.foreign.ofDouble
  | .orDefault e => (e.eval c bound).bind Value.orDefault
  | .mapCall e f => (e.eval c bound).bind (Value.mapPresent (c.call f))
  | .mapClosure e body => (e.eval c bound).bind (Value.mapPresent fun v => body.eval c (some v))
  | .mapElements e body => (e.eval c bound).bind (Value.mapElements fun v => body.eval c (some v))
  | .unlessEmpty e => (e.eval c bound).bind fun v => v.unlessEmpty fun _ => some v
  | .unlessEmptyThen e body => (e.eval c bound).bind (Value.unlessEmpty fun _ => body.eval c bound)

/-! ## Modules -/

/-- The record literal, with every field evaluated. -/
def Conversion.apply (c : Conversion) (foreign : Foreign α)
    (call : Function → Value α → Option (Value α)) : Value α → Option (Value α)
  | .record item => Value.record <$> c.fields.mapM fun f =>
      (Prod.mk f.1) <$> f.2.eval ⟨foreign, call, item⟩ none
  | _ => none

def Module.conversion (m : Module) : Direction → Conversion
  | .toWire => m.toWire
  | .toDomain => m.toDomain

def Module.listConversion (m : Module) : Direction → ListConversion
  | .toWire => m.toWireList
  | .toDomain => m.toDomainList

/-! The parts of a message's module, by the direction. -/

section

variable (s : Settings) (m : Message) (d : Direction)

theorem conversion_name :
    ((Module.ofMessage s m).conversion d).name = (function s.naming d false m.name).name := by
  cases d <;> rfl

theorem conversion_source :
    ((Module.ofMessage s m).conversion d).source = d.source.typeName m := by
  cases d <;> rfl

theorem conversion_target :
    ((Module.ofMessage s m).conversion d).target = d.target.typeName m := by
  cases d <;> rfl

theorem conversion_fields : ((Module.ofMessage s m).conversion d).fields =
    m.fields.map fun f => (d.target.ident f, d.expr s.naming f) := by
  cases d <;> rfl

theorem listConversion_name :
    ((Module.ofMessage s m).listConversion d).name = (function s.naming d true m.name).name := by
  cases d <;> rfl

theorem listConversion_source :
    ((Module.ofMessage s m).listConversion d).source = d.source.typeName m := by
  cases d <;> rfl

theorem listConversion_target :
    ((Module.ofMessage s m).listConversion d).target = d.target.typeName m := by
  cases d <;> rfl

theorem listConversion_element :
    ((Module.ofMessage s m).listConversion d).element =
      (function s.naming d false m.name).name := by
  cases d <;> rfl

end

/-- The function of the module that goes in that direction. -/
def Module.apply (m : Module) (d : Direction) (foreign : Foreign α)
    (call : Function → Value α → Option (Value α)) (f : Function) (v : Value α) :
    Option (Value α) :=
  if f.name = (m.conversion d).name then (m.conversion d).apply foreign call v
  else if f.name = (m.listConversion d).name then
    v.mapElements (call ⟨f.module, (m.listConversion d).element⟩)
  else none

/-- A call of the converters of the graph. At most `depth` calls may be open at once. -/
def callAt (s : Settings) (g : ServiceGraph) (foreign : Foreign α) (d : Direction) :
    Nat → Function → Value α → Option (Value α)
  | 0, _, _ => none
  | depth + 1, f, v => do
    let m ← g.messages.toList.find? fun m => Naming.converterModule m.name == f.module
    (Module.ofMessage s m).apply d foreign (callAt s g foreign d depth) f v

/-- The converter of the message turns `v` into `w`, however many more calls may be open. -/
def Converts (s : Settings) (g : ServiceGraph) (foreign : Foreign α) (d : Direction) (m : Message)
    (v w : Value α) : Prop :=
  ∃ enough, ∀ depth ≥ enough,
    callAt s g foreign d depth (function s.naming d false m.name) v = some w

end Converter

/-! ## Values of a graph -/

/-- The record of the message on that side. -/
def Message.valueOf {α : Type} (m : Message) (side : Side) (a : Message.Field → Value α) :
    Value α :=
  .record (m.fields.map fun f => (side.ident f, a f))

/-- The value belongs to a field of that side, or to an element of it. Timestamps and decimals are
left out, for their conversions round. In the domain an absent sequence is told from an empty one
only if the sequence may be absent, and then an empty one is left out. -/
inductive Exact {α : Type} (g : ServiceGraph) (side : Side) :
    DomainType → (repeats nullable : Bool) → Value α → Prop
  | leaf {t a} (ht : Converter.Crossing.ofType t = .same) : Exact g side t false false (.leaf a)
  | record {m a} (hm : m ∈ g.messages.toList)
    (h : ∀ f ∈ m.fields, Exact g side f.elementType f.repeats f.nullable (a f)) :
    Exact g side (.named m.name) false false (m.valueOf side a)
  | absent {t} : Exact g side t false true .absent
  | present {t v} (h : Exact g side t false false v) : Exact g side t false true (.present v)
  | elements {t vs} (h : ∀ v ∈ vs, Exact g side t false false v) :
    Exact g side t true false (.sequence vs)
  | noElements {t} (hside : side = .domain) : Exact g side t true true .absent
  | someElements {t vs} (hside : side = .domain) (hvs : vs ≠ [])
    (h : ∀ v ∈ vs, Exact g side t false false v) :
    Exact g side t true true (.present (.sequence vs))
  | wireElements {t vs} (hside : side = .wire) (h : ∀ v ∈ vs, Exact g side t false false v) :
    Exact g side t true true (.sequence vs)

end RpcScaffold
