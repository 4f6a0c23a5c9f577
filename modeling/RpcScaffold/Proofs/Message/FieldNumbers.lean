import RpcScaffold.Proofs.Message.Fields
import RpcScaffold.Proofs.Naming.Alphanumerics
import RpcScaffold.Schema

/-!
# Field numbers

The tag of a field is its place among the declared fields, and a schema writes it as it is. The
numbers that proto3 admits have a gap, so they are legal for models with few enough fields only.
-/

namespace RpcScaffold

open Text

/-- What proto3 admits as the number of a field: the range up to `2 ^ 29 - 1`, without the numbers
that are kept for implementations. -/
def IsFieldNumber (k : Nat) : Prop := (1 ≤ k ∧ k ≤ 536870911) ∧ ¬ (19000 ≤ k ∧ k ≤ 19999)

theorem isFieldNumber_of_lt {k : Nat} (hpos : 1 ≤ k) (hlt : k < 19000) : IsFieldNumber k := by
  constructor <;> omega

theorem not_isFieldNumber_19000 : ¬ IsFieldNumber 19000 := fun h => h.2 (by decide)

variable {n : Naming} {m : Model} {message : Message}

theorem IsMessage.mem_ordinals_iff (h : IsMessage n m message) {k : Nat} :
    k ∈ message.fields.map (·.ordinal) ↔ 1 ≤ k ∧ k ≤ m.fields.length := by
  rw [h.ordinals_eq, List.mem_range'_1, Nat.add_comm, Nat.lt_succ_iff]

/-- The field lines of a message end in the places of the declared fields. They are legal field
numbers if and only if the model has fewer than 19000 fields. -/
theorem fieldNumbers_legal_iff (h : Message.ofModel n m = .ok message) :
    (Schema.Block.ofMessage message).step = .block ("message " ++ message.wireName)
      (message.fields.map fun f =>
        .line (f.schemaType ++ " " ++ f.wireName ++ " = " ++ toString f.ordinal ++ ";")) ∧
    message.fields.map (·.ordinal) = List.range' 1 m.fields.length ∧
    ((∀ f ∈ message.fields, IsFieldNumber f.ordinal) ↔ m.fields.length < 19000) := by
  have hm := (ofModel_eq_ok.mp h).1
  refine ⟨?_, hm.ordinals_eq, ?_⟩
  · rw [Schema.Block.ofMessage, Schema.Block.step, List.map_map]
    rfl
  · rw [← List.forall_mem_map (f := fun f : Message.Field => f.ordinal)]
    simp only [hm.mem_ordinals_iff]
    constructor
    · intro hlegal
      by_contra hmany
      exact not_isFieldNumber_19000 (hlegal 19000 ⟨by decide, Nat.le_of_not_lt hmany⟩)
    · rintro hfew k ⟨hpos, hle⟩
      exact isFieldNumber_of_lt hpos (Nat.lt_of_le_of_lt hle hfew)

/-! ## Models with many fields -/

/-- A model with `k` fields, `f0` and so on. -/
def numbered (k : Nat) : Model where
  name := "Wide"
  fields := (List.range k).map fun i => { name := "f" ++ toString i, type := .bool }

theorem isAscii_of_isDigit {c : Char} (h : c.isDigit = true) : isAscii c = true := by
  rw [Char.isDigit, Bool.and_eq_true, decide_eq_true_eq, decide_eq_true_eq] at h
  have hle : c.toNat ≤ 57 := h.2
  rw [isAscii, decide_eq_true_eq]
  omega

/-- A digit has no case. -/
theorem alphanumeric_of_isDigit {c : Char} (h : c.isDigit = true) :
    isAlphanumeric c = true ∧ c.toLower = c := by
  have hall := forall_ascii
    (P := fun c => c.isDigit = true → isAlphanumeric c = true ∧ c.toLower = c) (by decide)
    (isAscii_of_isDigit h)
  exact hall h

theorem isDigit_of_mem_repr {i : Nat} {c : Char} (hc : c ∈ i.repr.toList) : c.isDigit = true := by
  rw [Nat.toList_repr] at hc
  exact Nat.isDigit_of_mem_toDigits (by decide) (by decide) hc

theorem alphanumerics_repr (i : Nat) : alphanumerics i.repr = Nat.toDigits 10 i := by
  have hdigits (c : Char) (hc : c ∈ i.repr.toList) :=
    alphanumeric_of_isDigit (isDigit_of_mem_repr hc)
  rw [alphanumerics, List.filter_eq_self.mpr fun c hc => (hdigits c hc).1, ← Nat.toList_repr]
  exact (List.map_congr_left fun c hc => (hdigits c hc).2).trans (List.map_id _)

/-- Names with different numbers differ in their digits, which no change of case alters. -/
theorem snakeCase_numbered_injective :
    Function.Injective fun i : Nat => snakeCase ("f" ++ i.repr) := by
  have hascii (i : Nat) : ∀ c ∈ ("f" ++ i.repr).toList, isAscii c = true := by
    rw [String.toList_append, List.forall_mem_append]
    have hf : ∀ c ∈ ['f'], isAscii c = true := List.forall_mem_singleton.mpr rfl
    exact ⟨hf, fun c hc => isAscii_of_isDigit (isDigit_of_mem_repr hc)⟩
  intro i j hij
  have hsame := congrArg alphanumerics hij
  simp only [alphanumerics_snakeCase (hascii _), alphanumerics_append, alphanumerics_repr] at hsame
  rw [← Nat.ofDigitChars_ten_toDigits (n := i), List.append_cancel_left hsame,
    Nat.ofDigitChars_ten_toDigits]

theorem exists_message_numbered {k : Nat} (hk : k < 2 ^ 32) :
    ∃ message, Message.ofModel {} (numbered k) = .ok message := by
  rw [exists_ofModel_eq_ok]
  refine ⟨?_, ?_, ?_⟩
  · rw [numbered, List.forall_mem_map]
    exact fun i _ => ⟨_, rfl⟩
  · rw [numbered, List.map_map]
    exact List.nodup_range.map snakeCase_numbered_injective
  · simpa [numbered] using hk

theorem fieldNumbers_legal_numbered : ∃ message,
    Message.ofModel {} (numbered 18999) = .ok message ∧
      ∀ f ∈ message.fields, IsFieldNumber f.ordinal := by
  obtain ⟨message, h⟩ := exists_message_numbered (k := 18999) (by decide)
  refine ⟨message, h, (fieldNumbers_legal_iff h).2.2.mpr ?_⟩
  simp [numbered]

/-- One field more. -/
theorem fieldNumbers_illegal_numbered : ∃ message,
    Message.ofModel {} (numbered 19000) = .ok message ∧
      ∃ f ∈ message.fields, f.ordinal = 19000 ∧ ¬ IsFieldNumber f.ordinal := by
  obtain ⟨message, h⟩ := exists_message_numbered (k := 19000) (by decide)
  have hlast : 19000 ∈ message.fields.map (·.ordinal) := by
    rw [(ofModel_eq_ok.mp h).1.mem_ordinals_iff]
    simp [numbered]
  obtain ⟨f, hf, hordinal⟩ := List.mem_map.mp hlast
  exact ⟨message, h, f, hf, hordinal, hordinal ▸ not_isFieldNumber_19000⟩

end RpcScaffold
