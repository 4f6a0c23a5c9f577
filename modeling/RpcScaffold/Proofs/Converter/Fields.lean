import RpcScaffold.Converter.Expr
import RpcScaffold.Proofs.Discovery.Acceptance
import RpcScaffold.Proofs.Wire.Mapping

/-!
# Fields on both sides

A field of a message stands in a record of the domain and in a record of the wire. Its expressions
in the two directions are built from the type of its elements, whether it repeats and whether it may
be absent, and from nothing else.
-/

namespace RpcScaffold

/-! ## Fields of a message -/

def Message.Field.repeats (f : Message.Field) : Bool := f.cardinality == .repeated

/-- How the parts of a field that was made belong together. -/
structure Message.Field.Mapped (n : Naming) (f : Message.Field) : Prop where
  element : (∃ w, WireMapping.ofValue n f.elementType = .ok w ∧ f.wireType = w.type) ∨
    (f.elementType.element? = some .uint8 ∧ f.wireType = .scalar .bytes)
  isNested : f.isNested = f.wireType.isMessage
  sequence : f.repeats = true → f.domainType.element? = some f.elementType
  single : f.repeats = false → f.domainType = f.elementType
  optional : f.repeats = false → f.isNested = true → f.nullable = true

theorem MakesField.mapped {n : Naming} {p : Model.Field × Nat} {f : Message.Field}
    (h : MakesField n p f) : f.Mapped n := by
  obtain ⟨w, hw, rfl⟩ := h
  rcases ofType_eq_ok.mp hw with ⟨-, hvalue⟩ | ⟨helement, rfl⟩ | ⟨e, v, helement, hvalue, rfl⟩
  · have hcard := ofValue_cardinality hvalue
    have hrepeats : (Message.Field.make n p.1 p.2 w).repeats = false := by
      simpa [Message.Field.repeats, Message.Field.make] using hcard
    have htype : (Message.Field.make n p.1 p.2 w).elementType = p.1.type := by
      simp [Message.Field.elementType, Message.Field.make, hcard]
    refine ⟨.inl ⟨w, by rw [htype, hvalue], rfl⟩, rfl, ?_, fun _ => htype.symm, ?_⟩
    · rw [hrepeats]
      simp
    · intro _ hnested
      rcases ofValue_isMessage hvalue with ⟨-, hscalar, -⟩ | ⟨hno, -⟩
      · have hmessage : w.type.isMessage = true := hnested
        simp [Message.Field.make, hmessage, hscalar]
      · exact absurd (hno.symm.trans hnested) (by simp)
  · have htype : (Message.Field.make n p.1 p.2 .blob).elementType = p.1.type := by
      simp [Message.Field.elementType, Message.Field.make, WireMapping.blob]
    refine ⟨.inr ⟨by rw [htype, helement], rfl⟩, rfl, ?_, fun _ => htype.symm, ?_⟩
    · simp [Message.Field.repeats, Message.Field.make, WireMapping.blob]
    · simp [Message.Field.make, WireMapping.blob, WireType.isMessage]
  · have hrepeats : (Message.Field.make n p.1 p.2 v.repeated).repeats = true := rfl
    have htype : (Message.Field.make n p.1 p.2 v.repeated).elementType = e := by
      simp [Message.Field.elementType, Message.Field.make, WireMapping.repeated, helement]
    refine ⟨.inl ⟨v, by rw [htype, hvalue], rfl⟩, rfl, ?_, ?_, ?_⟩
    · intro _
      rw [htype]
      exact helement
    · rw [hrepeats]
      simp
    · rw [hrepeats]
      simp

theorem IsMessage.wireNames_eq {n : Naming} {m : Model} {message : Message}
    (h : IsMessage n m message) :
    message.fields.map (·.wireName) = m.fields.map (·.wireName n) :=
  h.map_fields_fst fun _ _ hfield => hfield.wireName_eq

theorem mapped_of_ofModel {n : Naming} {m : Model} {message : Message}
    (h : Message.ofModel n m = .ok message) {f : Message.Field} (hf : f ∈ message.fields) :
    f.Mapped n := by
  obtain ⟨p, -, hp⟩ := exists_left (ofModel_eq_ok.mp h).1.fields hf
  exact hp.mapped

namespace Message.Field.Mapped

variable {n : Naming} {f : Message.Field} (h : f.Mapped n)
include h

theorem wireType_of_named {model : String} (hmodel : f.elementType = .named model) :
    f.wireType = .message (n.wireMessage model) := by
  rcases h.element with ⟨w, hw, htype⟩ | ⟨hbytes, -⟩
  · rw [hmodel] at hw
    cases hw
    exact htype
  · rw [hmodel] at hbytes
    cases hbytes

theorem isNested_iff : f.isNested = true ↔ ∃ model, f.elementType = .named model := by
  rw [h.isNested]
  constructor
  · intro hnested
    rcases h.element with ⟨w, hw, htype⟩ | ⟨-, htype⟩
    · rw [htype] at hnested
      rcases ofValue_isMessage hw with ⟨-, -, model, hmodel, -⟩ | ⟨hno, -⟩
      · exact ⟨model, hmodel⟩
      · exact absurd (hno.symm.trans hnested) (by simp)
    · rw [htype] at hnested
      cases hnested
  · rintro ⟨model, hmodel⟩
    rw [h.wireType_of_named hmodel]
    rfl

/-- The field and its elements refer to the same model. -/
theorem referencedModel?_of_named {model : String} (hmodel : f.elementType = .named model) :
    f.domainType.referencedModel? = some model := by
  cases hrepeats : f.repeats with
  | false =>
    rw [h.single hrepeats, hmodel]
    rfl
  | true =>
    have helement := h.sequence hrepeats
    rw [hmodel] at helement
    exact DomainType.referencedModel?_eq_some.mpr (.inr helement)

theorem nestedModel?_eq_some {model : String} :
    f.nestedModel? = some model ↔ f.elementType = .named model := by
  unfold Message.Field.nestedModel?
  constructor
  · intro hmodel
    split_ifs at hmodel with hnested
    obtain ⟨other, hother⟩ := h.isNested_iff.mp hnested
    rw [h.referencedModel?_of_named hother, Option.some.injEq] at hmodel
    rw [hother, hmodel]
  · intro hmodel
    rw [if_pos (h.isNested_iff.mpr ⟨model, hmodel⟩), h.referencedModel?_of_named hmodel]

end Message.Field.Mapped

/-- The message of a nested field is in the catalog. -/
theorem Discovers.mem_names_of_named {r : Registry} {n : Naming} {g : ServiceGraph}
    (h : Discovers r n g) {m : Message} (hm : m ∈ g.messages.toList) {f : Message.Field}
    (hf : f ∈ m.fields) {model : String} (hmodel : f.elementType = .named model) :
    model ∈ g.messages.names := by
  obtain ⟨k, hk, hkm⟩ := h.exists_model hm
  obtain ⟨p, hp, hpf⟩ := exists_left hkm.fields hf
  have htarget := hpf.mapped.referencedModel?_of_named hmodel
  obtain ⟨w, -, rfl⟩ := hpf
  have hexposed : r.Exposes k.name := by
    rw [← hkm.name, ← h.exposes_iff]
    exact List.mem_map_of_mem hm
  obtain ⟨service, hservice, hreach⟩ := hexposed
  have hrefers : r.Refers k.name model :=
    ⟨k, hk, rfl, p.1, List.fst_mem_of_mem_zipIdx hp, htarget⟩
  exact h.exposes_iff.mpr ⟨service, hservice, .step hreach hrefers⟩

/-! ## Sides and directions -/

inductive Side
  | domain
  | wire
  deriving Repr, DecidableEq

/-- What belongs to that side. -/
def Side.pick {β : Type} (inDomain onWire : β) : Side → β
  | domain => inDomain
  | wire => onWire

/-- The field in the record of that side. -/
def Side.ident (f : Message.Field) : Side → String
  | domain => Naming.domainField f.name
  | wire => Naming.wireFieldIdent f.wireName

/-- The record type of the message. -/
def Side.typeName (m : Message) : Side → String
  | domain => m.name
  | wire => m.wireName

namespace Converter

def Direction.source : Direction → Side
  | toWire => .domain
  | toDomain => .wire

def Direction.target : Direction → Side
  | toWire => .wire
  | toDomain => .domain

/-- The expression for the field of the target. -/
def Direction.expr (n : Naming) (f : Message.Field) : Direction → Expr
  | toWire => fieldToWire n f
  | toDomain => fieldToDomain n f

/-- How `e` crosses as the content of a field with elements of type `t`. -/
def crossing (n : Naming) (d : Direction) (t : DomainType) (repeats nullable : Bool) (e : Expr) :
    Expr :=
  let c := Crossing.ofType t
  match repeats, nullable with
  | false, false => c.value n d e
  | false, true => c.option n d e
  | true, false => c.sequence n d e
  | true, true =>
    match d with
    | .toWire => c.sequence n d (.orDefault e)
    | .toDomain => if c = .same then .unlessEmpty e else .unlessEmptyThen e (c.sequence n d e)

theorem expr_eq (n : Naming) (d : Direction) (f : Message.Field) :
    d.expr n f = crossing n d f.elementType f.repeats f.nullable (.field (d.source.ident f)) := by
  unfold Direction.expr fieldToWire fieldToDomain crossing Message.Field.repeats
  cases d <;> cases f.cardinality <;> cases f.nullable <;> rfl

/-- The name for lists is longer. -/
theorem function_name_ne (n : Naming) (d : Direction) (model : String) :
    (function n d true model).name ≠ (function n d false model).name := by
  intro h
  cases d <;> simpa [function, Naming.toWireListFn, Naming.toDomainListFn] using
    congrArg String.length h

/-! ## The fields of an expression -/

/-- The fields that the expression reads. -/
def Expr.accessed : Expr → List String
  | .field name => [name]
  | .bound => []
  | .call _ e | .mapCall e _ => e.accessed
  | .toMillis e | .ofMillis e | .toDouble e | .ofDouble e | .orDefault e | .unlessEmpty e =>
    e.accessed
  | .mapClosure e body | .mapElements e body | .unlessEmptyThen e body =>
    e.accessed ++ body.accessed

section

variable {n : Naming} {d : Direction}

theorem accessed_value (c : Crossing) (e : Expr) : (c.value n d e).accessed = e.accessed := by
  cases c <;> cases d <;> rfl

theorem accessed_option (c : Crossing) (e : Expr) : (c.option n d e).accessed = e.accessed := by
  cases c <;> simp [Crossing.option, Expr.accessed, accessed_value]

theorem accessed_sequence (c : Crossing) (e : Expr) :
    (c.sequence n d e).accessed = e.accessed := by
  cases c <;> simp [Crossing.sequence, Expr.accessed, accessed_value]

theorem accessed_crossing {t : DomainType} {repeats nullable : Bool} {e : Expr} {name : String} :
    name ∈ (crossing n d t repeats nullable e).accessed ↔ name ∈ e.accessed := by
  unfold crossing
  cases repeats with
  | false => cases nullable <;> simp [accessed_value, accessed_option]
  | true =>
    cases nullable with
    | false => simp [accessed_sequence]
    | true =>
      cases d with
      | toWire => simp [accessed_sequence, Expr.accessed]
      | toDomain =>
        simp only
        split_ifs <;> simp [accessed_sequence, Expr.accessed]

/-- The field of the target is made of its counterpart and of nothing else. -/
theorem mem_accessed_expr {f : Message.Field} {name : String} :
    name ∈ (d.expr n f).accessed ↔ name = d.source.ident f := by
  rw [expr_eq, accessed_crossing, Expr.accessed, List.mem_singleton]

end

end Converter

end RpcScaffold
