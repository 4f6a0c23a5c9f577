import RpcScaffold.Converter.Module
import RpcScaffold.Instructions
import RpcScaffold.Message.Build
import RpcScaffold.Proofs.Success
import RpcScaffold.Schema

/-!
# Arrays and lists

The two forms of a sequence mean the same. A type is brought to one form by writing every sequence
as a list, and nothing that is derived from a field tells the form that was declared.
-/

namespace RpcScaffold

/-! ## Types -/

namespace DomainType

/-- The type with all sequences in it written as lists. -/
def asLists : DomainType → DomainType
  | array e | list e => list e.asLists
  | map k v => map k.asLists v.asLists
  | t => t

variable {t : DomainType}

@[simp] theorem element?_asLists : t.asLists.element? = t.element?.map asLists := by
  cases t <;> simp [asLists, element?]

/-- A name stays a name, and so the model is found at the same depth. -/
@[simp] theorem referencedModel?_asLists : t.asLists.referencedModel? = t.referencedModel? := by
  cases t with
  | array e => cases e <;> simp [asLists, referencedModel?]
  | list e => cases e <;> simp [asLists, referencedModel?]
  | _ => simp [asLists, referencedModel?]

/-- A type without parts. -/
def isLeaf : DomainType → Bool
  | array _ | list _ | map _ _ => false
  | _ => true

theorem asLists_eq_iff {w : DomainType} (hw : w.isLeaf = true) : t.asLists = w ↔ t = w := by
  cases t with
  | array | list | map =>
    constructor
    · rintro rfl
      simp [asLists, isLeaf] at hw
    · rintro rfl
      simp [isLeaf] at hw
  | _ => simp [asLists]

theorem beq_asLists {w : DomainType} (hw : w.isLeaf = true) : (t.asLists == w) = (t == w) := by
  rw [Bool.eq_iff_iff]
  simp [asLists_eq_iff hw]

end DomainType

variable {n : Naming} {t : DomainType}

/-! ## On the wire -/

namespace WireMapping

theorem ofElement_asLists : ofElement n t.asLists = ofElement n t := by
  cases t <;> simp [DomainType.asLists, ofElement, ofValue]

theorem ofType_asLists : ofType n t.asLists = ofType n t := by
  cases t with
  | array e => simp [DomainType.asLists, ofType, ofElement_asLists]
  | list e => simp [DomainType.asLists, ofType, ofElement_asLists]
  | _ => simp [DomainType.asLists, ofType, ofValue]

end WireMapping

theorem isTimestamp_asLists : Message.isTimestamp t.asLists = Message.isTimestamp t := by
  have hleaf : DomainType.timestamp.isLeaf = true := rfl
  unfold Message.isTimestamp
  rw [DomainType.element?_asLists, DomainType.beq_asLists hleaf]
  cases t.element? <;> simp [DomainType.beq_asLists hleaf]

theorem crossing_asLists :
    Converter.Crossing.ofType t.asLists = Converter.Crossing.ofType t := by
  cases t <;> simp [DomainType.asLists, Converter.Crossing.ofType]

/-- The elements decide, for a sequence itself is no leaf. -/
theorem mentions_asLists {w : DomainType} (hw : w.isLeaf = true) :
    Instructions.mentions w t.asLists = Instructions.mentions w t := by
  induction t with
  | array e ih =>
    have hlist := DomainType.beq_asLists (t := .array e) hw
    simp only [DomainType.asLists, Instructions.mentions] at hlist ⊢
    rw [hlist, ih]
  | list e ih =>
    have hlist := DomainType.beq_asLists (t := .list e) hw
    simp only [DomainType.asLists, Instructions.mentions] at hlist ⊢
    rw [hlist, ih]
  | map k v => exact DomainType.beq_asLists (t := .map k v) hw
  | _ => rfl

/-! ## Fields and messages -/

namespace Message

def Field.asLists (f : Field) : Field := { f with domainType := f.domainType.asLists }

def asLists (m : Message) : Message := { m with fields := m.fields.map Field.asLists }

variable {f : Field} {m : Message}

@[simp] theorem Field.name_asLists : f.asLists.name = f.name := rfl

@[simp] theorem Field.wireName_asLists : f.asLists.wireName = f.wireName := rfl

@[simp] theorem Field.schemaType_asLists : f.asLists.schemaType = f.schemaType := rfl

@[simp] theorem Field.ordinal_asLists : f.asLists.ordinal = f.ordinal := rfl

@[simp] theorem name_asLists : m.asLists.name = m.name := rfl

@[simp] theorem wireName_asLists : m.asLists.wireName = m.wireName := rfl

@[simp] theorem fields_asLists : m.asLists.fields = m.fields.map Field.asLists := rfl

@[simp] theorem Field.elementType_asLists : f.asLists.elementType = f.elementType.asLists := by
  unfold Field.elementType
  simp only [Field.asLists, DomainType.element?_asLists]
  cases f.domainType.element? with
  | none => simp
  | some e => simp [apply_ite DomainType.asLists]

theorem hasFieldOf_asLists {w : DomainType} (hw : w.isLeaf = true) :
    m.asLists.hasFieldOf w = m.hasFieldOf w := by
  simp [hasFieldOf, Function.comp_def, DomainType.beq_asLists hw]

end Message

namespace Converter

@[simp] theorem fieldToWire_asLists (f : Message.Field) :
    fieldToWire n f.asLists = fieldToWire n f := by
  unfold fieldToWire
  rw [Message.Field.elementType_asLists, crossing_asLists]
  rfl

@[simp] theorem fieldToDomain_asLists (f : Message.Field) :
    fieldToDomain n f.asLists = fieldToDomain n f := by
  unfold fieldToDomain
  rw [Message.Field.elementType_asLists, crossing_asLists]
  rfl

/-- A converter knows the elements of a field, and not the form of the sequence. -/
theorem ofMessage_asLists (s : Settings) (m : Message) :
    Module.ofMessage s m.asLists = Module.ofMessage s m := by
  have hdecimal : m.asLists.hasFieldOf .decimal = m.hasFieldOf .decimal :=
    Message.hasFieldOf_asLists rfl
  simp [Module.ofMessage, hdecimal, Function.comp_def]

end Converter

theorem Schema.Block.ofMessage_asLists (m : Message) : ofMessage m.asLists = ofMessage m := by
  simp [ofMessage, Function.comp_def, Field.ofMessageField]

end RpcScaffold
