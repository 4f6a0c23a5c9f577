import RpcScaffold.Instructions
import RpcScaffold.Proofs.Converter.Contents

/-!
# Types that lose something on the wire

Timestamps and decimals come back changed, and both are types of another package. The expressions
of a field convert such a type exactly if the elements of the field are of that type.
-/

namespace RpcScaffold

inductive Lossy
  | timestamp
  | decimal
  deriving Repr, DecidableEq

namespace Lossy

def type : Lossy → DomainType
  | timestamp => .timestamp
  | decimal => .decimal

/-- The package that has the type. -/
def package : Lossy → String
  | timestamp => "chrono"
  | decimal => "rust_decimal"

end Lossy

variable {k : Lossy}

namespace Converter

/-! ## Expressions -/

/-- Some part of the expression converts a value of that type, one way or the other. -/
def Expr.converts (k : Lossy) : Expr → Bool
  | .field _ | .bound => false
  | .call _ e | .mapCall e _ | .orDefault e | .unlessEmpty e => e.converts k
  | .toMillis e | .ofMillis e => k == .timestamp || e.converts k
  | .toDouble e | .ofDouble e => k == .decimal || e.converts k
  | .mapClosure e body | .mapElements e body | .unlessEmptyThen e body =>
    e.converts k || body.converts k

def Crossing.converts (k : Lossy) : Crossing → Bool
  | timestamp => k == .timestamp
  | decimal => k == .decimal
  | _ => false

theorem Crossing.converts_ofType (t : DomainType) :
    (Crossing.ofType t).converts k = (t == k.type) := by
  cases k <;> cases t <;> rfl

variable {n : Naming} {d : Direction} {c : Crossing} {e : Expr}

theorem value_converts : (c.value n d e).converts k = (c.converts k || e.converts k) := by
  cases c with
  | timestamp | decimal => cases d <;> rfl
  | _ => rfl

theorem option_converts : (c.option n d e).converts k = (c.converts k || e.converts k) := by
  cases c with
  | timestamp | decimal =>
    simp only [Crossing.option, Expr.converts, value_converts, Bool.or_false]
    exact Bool.or_comm _ _
  | _ => rfl

theorem sequence_converts : (c.sequence n d e).converts k = (c.converts k || e.converts k) := by
  cases c with
  | timestamp | decimal =>
    simp only [Crossing.sequence, Expr.converts, value_converts, Bool.or_false]
    exact Bool.or_comm _ _
  | _ => rfl

/-- Only the elements count, however the field holds them. -/
theorem crossing_converts {t : DomainType} {repeats nullable : Bool} (he : e.converts k = false) :
    (crossing n d t repeats nullable e).converts k = (t == k.type) := by
  rw [← Crossing.converts_ofType]
  unfold crossing
  cases repeats with
  | false =>
    cases nullable with
    | false => simp [value_converts, he]
    | true => simp [option_converts, he]
  | true =>
    cases nullable with
    | false => simp [sequence_converts, he]
    | true =>
      cases d with
      | toWire => simp [sequence_converts, Expr.converts, he]
      | toDomain =>
        simp only
        split_ifs with hsame
        · rw [hsame]
          exact he
        · simp [sequence_converts, Expr.converts, he]

theorem expr_converts (n : Naming) (d : Direction) (f : Message.Field) :
    (d.expr n f).converts k = (f.elementType == k.type) := by
  rw [expr_eq, crossing_converts rfl]

/-! ## Modules -/

/-- Some field expression of the module converts a value of that type. -/
def Module.Converts (k : Lossy) (m : Module) : Prop :=
  ∃ d, ∃ f ∈ (m.conversion d).fields, f.2.converts k = true

theorem converts_ofMessage {s : Settings} {m : Message} :
    (Module.ofMessage s m).Converts k ↔ m.hasFieldOf k.type = true := by
  simp only [Module.Converts, conversion_fields, List.mem_map, Message.hasFieldOf,
    List.any_eq_true]
  constructor
  · rintro ⟨d, _, ⟨f, hf, rfl⟩, hconverts⟩
    rw [expr_converts] at hconverts
    exact ⟨f, hf, hconverts⟩
  · rintro ⟨f, hf, htype⟩
    refine ⟨.toWire, _, ⟨f, hf, rfl⟩, ?_⟩
    rw [expr_converts]
    exact htype

/-- What the module imports for its decimals, it needs. -/
theorem usesDecimal_iff {s : Settings} {m : Message} :
    (Module.ofMessage s m).usesDecimal = true ↔ (Module.ofMessage s m).Converts .decimal :=
  (converts_ofMessage (k := .decimal)).symm

end Converter

/-! ## Declared types -/

/-- A type that is let through is no sequence of sequences. -/
theorem mentions_eq {n : Naming} {f : Message.Field} (h : f.Mapped n) :
    Instructions.mentions k.type f.domainType = (f.elementType == k.type) := by
  have hvalue : ∀ {t : DomainType} {w : WireMapping}, WireMapping.ofValue n t = .ok w →
      Instructions.mentions k.type t = (t == k.type) := by
    intro t w ht
    cases t with
    | array | list => cases ht
    | _ => rfl
  have hsequence : ∀ {t e : DomainType}, t.element? = some e → (t == k.type) = false ∧
      Instructions.mentions k.type t = Instructions.mentions k.type e := by
    intro t e ht
    cases t with
    | array | list =>
      cases ht
      cases k <;> exact ⟨rfl, rfl⟩
    | _ => cases ht
  have helement : Instructions.mentions k.type f.elementType = (f.elementType == k.type) := by
    rcases h.element with ⟨w, hw, -⟩ | ⟨hbytes, -⟩
    · exact hvalue hw
    · obtain ⟨hno, hmentions⟩ := hsequence hbytes
      rw [hno, hmentions]
      cases k <;> rfl
  cases hrepeats : f.repeats with
  | false => rw [h.single hrepeats, helement]
  | true => rw [(hsequence (h.sequence hrepeats)).2, helement]

/-- The instructions need the package of a type if some converter does. -/
theorem Discovers.uses_iff {r : Registry} {s : Settings} {g : ServiceGraph}
    (h : Discovers r s.naming g) : Instructions.uses g k.type = true ↔
      ∃ m ∈ g.messages.toList, (Converter.Module.ofMessage s m).Converts k := by
  simp only [Instructions.uses, List.any_eq_true, Converter.converts_ofMessage, Message.hasFieldOf]
  refine exists_congr fun m => and_congr_right fun hm => ?_
  refine exists_congr fun f => and_congr_right fun hf => ?_
  obtain ⟨model, -, hok⟩ := h.built.ofModel m hm
  rw [mentions_eq (mapped_of_ofModel hok hf)]

end RpcScaffold
