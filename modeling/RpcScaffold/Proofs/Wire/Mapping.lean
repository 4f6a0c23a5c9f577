import RpcScaffold.Proofs.Success
import RpcScaffold.Wire.Mapping

/-!
# Which types have a wire type

The wire type, the element and the model of a type are found by three functions, each by cases of its
own. They agree: a type is refused or mapped by what it is a sequence of, and the wire type refers to
a message where the type refers to a model.
-/

namespace RpcScaffold

/-! ## Types with a wire type -/

namespace DomainType

/-- The types that travel as a scalar. -/
def mappedScalars : List DomainType := [
  int32, int64, uint32, uint64, bool, float, double, decimal, string, timestamp, bytes]

/-- A value of the type stands in a field by itself. -/
inductive IsValue : DomainType → Prop
  | scalar {t : DomainType} (h : t ∈ mappedScalars) : IsValue t
  | named (model : String) : IsValue (named model)

/-- A field may have the type. -/
inductive IsMapped : DomainType → Prop
  | value {t : DomainType} (h : t.IsValue) : IsMapped t
  | byteSequence {t : DomainType} (h : t.element? = some uint8) : IsMapped t
  | sequence {t e : DomainType} (h : t.element? = some e) (he : e.IsValue) : IsMapped t

variable {t : DomainType}

theorem IsValue.element?_eq_none (h : t.IsValue) : t.element? = none := by
  cases h with
  | scalar h =>
    have hall : ∀ t ∈ mappedScalars, t.element? = none := by decide
    exact hall t h
  | named model => rfl

theorem referencedModel?_eq_some {model : String} :
    t.referencedModel? = some model ↔ t = named model ∨ t.element? = some (named model) := by
  cases t with
  | named m => simp [referencedModel?, element?]
  | array e | list e => cases e <;> simp [referencedModel?, element?]
  | _ => simp [referencedModel?, element?]

end DomainType

/-! ## Values -/

section

variable {n : Naming} {t : DomainType} {w : WireMapping}

theorem exists_ofValue_eq_ok : (∃ w, WireMapping.ofValue n t = .ok w) ↔ t.IsValue := by
  constructor
  · rintro ⟨w, h⟩
    cases t with
    | named model => exact .named model
    | int8 | int16 | uint8 | uint16 | char | array | list | map => cases h
    | _ => exact .scalar (by decide)
  · intro h
    cases h with
    | scalar h =>
      simp only [DomainType.mappedScalars, List.mem_cons, List.not_mem_nil, or_false] at h
      rcases h with rfl | rfl | rfl | rfl | rfl | rfl | rfl | rfl | rfl | rfl | rfl <;>
        exact ⟨_, rfl⟩
    | named model => exact ⟨_, rfl⟩

theorem ofValue_cardinality (h : WireMapping.ofValue n t = .ok w) :
    w.cardinality ≠ .repeated := by
  cases t <;> cases h <;> simp [WireMapping.single, WireMapping.blob]

/-- A value travels in a message if its type names a model. -/
theorem ofValue_isMessage (h : WireMapping.ofValue n t = .ok w) :
    (w.type.isMessage = true ∧ w.cardinality = .scalar ∧
      ∃ model, t = .named model ∧ w.type = .message (n.wireMessage model)) ∨
    (w.type.isMessage = false ∧ ∀ model, t ≠ .named model) := by
  cases t with
  | named model =>
    cases h
    exact .inl ⟨rfl, rfl, model, rfl, rfl⟩
  | _ =>
    cases h <;> exact .inr ⟨rfl, by simp⟩

theorem ofValue_message {name : String} (h : WireMapping.ofValue n t = .ok w)
    (hw : w.type = .message name) : ∃ model, t = .named model ∧ name = n.wireMessage model := by
  rcases ofValue_isMessage h with ⟨-, -, model, rfl, htype⟩ | ⟨hno, -⟩
  · exact ⟨model, rfl, WireType.message.inj (hw.symm.trans htype)⟩
  · rw [hw] at hno
    cases hno

/-! ## Fields -/

theorem ofElement_eq_ok : WireMapping.ofElement n t = .ok w ↔
    (t = .uint8 ∧ w = .blob) ∨ ∃ v, WireMapping.ofValue n t = .ok v ∧ w = v.repeated := by
  have hmap : ∀ x : Except Unsupported WireMapping,
      WireMapping.repeated <$> x = .ok w ↔ ∃ v, x = .ok v ∧ w = v.repeated := by
    intro x
    exact map_eq_ok.trans (exists_congr fun v => and_congr_right fun _ => eq_comm)
  unfold WireMapping.ofElement
  split
  · simp [WireMapping.ofValue, eq_comm]
  · simp [WireMapping.ofValue]
  · next hbyte hpair =>
    rw [hmap]
    exact (or_iff_right fun h => hbyte h.1).symm

/-- The three ways to a wire type. -/
theorem ofType_eq_ok : WireMapping.ofType n t = .ok w ↔
    (t.element? = none ∧ WireMapping.ofValue n t = .ok w) ∨
    (t.element? = some .uint8 ∧ w = .blob) ∨
    ∃ e v, t.element? = some e ∧ WireMapping.ofValue n e = .ok v ∧ w = v.repeated := by
  cases t with
  | array e | list e =>
    have hvalue := ofElement_eq_ok (n := n) (t := e) (w := w)
    simp [WireMapping.ofType, DomainType.element?, hvalue]
  | _ => simp [WireMapping.ofType, DomainType.element?]

theorem exists_ofType_eq_ok : (∃ w, WireMapping.ofType n t = .ok w) ↔ t.IsMapped := by
  simp only [ofType_eq_ok]
  constructor
  · rintro ⟨w, ⟨-, h⟩ | ⟨h, -⟩ | ⟨e, v, h, hv, -⟩⟩
    · exact .value (exists_ofValue_eq_ok.mp ⟨w, h⟩)
    · exact .byteSequence h
    · exact .sequence h (exists_ofValue_eq_ok.mp ⟨v, hv⟩)
  · intro h
    cases h with
    | value h =>
      obtain ⟨w, hw⟩ := exists_ofValue_eq_ok.mpr h
      exact ⟨w, .inl ⟨h.element?_eq_none, hw⟩⟩
    | byteSequence h => exact ⟨_, .inr (.inl ⟨h, rfl⟩)⟩
    | sequence h he =>
      obtain ⟨v, hv⟩ := exists_ofValue_eq_ok.mpr he
      exact ⟨_, .inr (.inr ⟨_, v, h, hv, rfl⟩)⟩

/-- A field with a message type refers to the model of that message. -/
theorem referencedModel?_of_message {name : String} (h : WireMapping.ofType n t = .ok w)
    (hw : w.type = .message name) :
    ∃ model, t.referencedModel? = some model ∧ name = n.wireMessage model := by
  rcases ofType_eq_ok.mp h with ⟨-, hvalue⟩ | ⟨-, rfl⟩ | ⟨e, v, he, hvalue, rfl⟩
  · obtain ⟨model, rfl, hname⟩ := ofValue_message hvalue hw
    exact ⟨model, rfl, hname⟩
  · cases hw
  · obtain ⟨model, rfl, hname⟩ := ofValue_message hvalue hw
    exact ⟨model, DomainType.referencedModel?_eq_some.mpr (.inr he), hname⟩

/-- A type that refers to a model is mapped to its message. -/
theorem exists_ofType_of_referencedModel? {model : String} (h : t.referencedModel? = some model) :
    ∃ w, WireMapping.ofType n t = .ok w ∧ w.type = .message (n.wireMessage model) := by
  rcases DomainType.referencedModel?_eq_some.mp h with rfl | he
  · exact ⟨_, rfl, rfl⟩
  · exact ⟨_, ofType_eq_ok.mpr (.inr (.inr ⟨_, _, he, rfl, rfl⟩)), rfl⟩

end

/-! ## Agreement -/

/-- A type is mapped if and only if it is a value, or a sequence of bytes or values. Its wire type is
a message if and only if it refers to a model, and is then the message of that model. It repeats if
and only if it is a sequence of anything but bytes, and then its wire type is that of its elements,
which do not repeat themselves. -/
theorem ofType_agrees (n : Naming) (t : DomainType) :
    ((∃ w, WireMapping.ofType n t = .ok w) ↔ t.IsMapped) ∧
    (∀ name, (∃ w, WireMapping.ofType n t = .ok w ∧ w.type = .message name) ↔
      ∃ model, t.referencedModel? = some model ∧ name = n.wireMessage model) ∧
    ∀ w, WireMapping.ofType n t = .ok w →
      (w.cardinality = .repeated ↔ t.isSequence = true ∧ t.element? ≠ some .uint8) ∧
      (w.cardinality = .repeated → ∃ e v, t.element? = some e ∧
        WireMapping.ofType n e = .ok v ∧ w.type = v.type ∧ v.cardinality ≠ .repeated) := by
  refine ⟨exists_ofType_eq_ok, ?_, ?_⟩
  · intro name
    constructor
    · rintro ⟨w, h, hw⟩
      exact referencedModel?_of_message h hw
    · rintro ⟨model, h, rfl⟩
      exact exists_ofType_of_referencedModel? h
  · intro w h
    rcases ofType_eq_ok.mp h with ⟨he, hvalue⟩ | ⟨he, rfl⟩ | ⟨e, v, he, hvalue, rfl⟩
    · have hsingle := ofValue_cardinality hvalue
      exact ⟨by simp [hsingle, DomainType.isSequence, he], fun hrepeats => (hsingle hrepeats).elim⟩
    · exact ⟨by simp [WireMapping.blob, he], by simp [WireMapping.blob]⟩
    · have hmapped : e.IsValue := exists_ofValue_eq_ok.mp ⟨v, hvalue⟩
      have hbyte : e ≠ .uint8 := by
        rintro rfl
        cases hvalue
      refine ⟨by simp [WireMapping.repeated, DomainType.isSequence, he, hbyte], fun _ => ?_⟩
      exact ⟨e, v, he, ofType_eq_ok.mpr (.inl ⟨hmapped.element?_eq_none, hvalue⟩), rfl,
        ofValue_cardinality hvalue⟩

theorem ofType_agrees_people :
    WireMapping.ofType {} (.list (.named "person")) = .ok ⟨.message "GrpcPerson", .repeated⟩ ∧
    ∃ e v, (DomainType.list (.named "person")).element? = some e ∧
      WireMapping.ofType {} e = .ok v ∧ WireType.message "GrpcPerson" = v.type ∧
      v.cardinality ≠ .repeated := by
  have hname : ({} : Naming).wireMessage "person" = "GrpcPerson" := by decide +kernel
  have hmapped : WireMapping.ofType {} (.list (.named "person")) =
      .ok ⟨.message "GrpcPerson", .repeated⟩ := hname ▸ rfl
  exact ⟨hmapped, ((ofType_agrees {} (.list (.named "person"))).2.2 _ hmapped).2 rfl⟩

end RpcScaffold
