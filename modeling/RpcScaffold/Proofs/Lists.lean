import Mathlib.Data.List.Forall2

/-! # Lists in step -/

namespace RpcScaffold

variable {α β : Type} {R : α → β → Prop} {as : List α} {bs : List β}

theorem exists_left (h : List.Forall₂ R as bs) {b : β} (hb : b ∈ bs) : ∃ a ∈ as, R a b := by
  induction h with
  | nil => simp at hb
  | cons hab _ ih =>
    rcases List.mem_cons.mp hb with rfl | hb
    · exact ⟨_, List.mem_cons_self, hab⟩
    · obtain ⟨a, ha, h⟩ := ih hb
      exact ⟨a, List.mem_cons_of_mem _ ha, h⟩

theorem exists_right (h : List.Forall₂ R as bs) {a : α} (ha : a ∈ as) : ∃ b ∈ bs, R a b :=
  exists_left h.flip ha

theorem exists_forall₂ : (∃ bs, List.Forall₂ R as bs) ↔ ∀ a ∈ as, ∃ b, R a b := by
  induction as with
  | nil => simp
  | cons a rest ih =>
    rw [List.forall_mem_cons, ← ih]
    constructor
    · rintro ⟨_, h⟩
      cases h with
      | cons hab hrest => exact ⟨⟨_, hab⟩, _, hrest⟩
    · rintro ⟨⟨b, hab⟩, bs, hrest⟩
      exact ⟨b :: bs, .cons hab hrest⟩

/-- Lists in step are related by a function, where a step leaves no choice. -/
theorem exists_eq_map [Nonempty β] {as' : List α} {bs' : List β}
    (hsame : ∀ a b c, R a b → R a c → b = c) (h : List.Forall₂ R as bs)
    (h' : List.Forall₂ R as' bs') : ∃ f : α → β, bs = as.map f ∧ bs' = as'.map f := by
  have hchoice : ∀ a, ∃ b, ∀ c, R a c → b = c := by
    intro a
    by_cases hex : ∃ b, R a b
    · obtain ⟨b, hb⟩ := hex
      exact ⟨b, fun c hc => hsame a b c hb hc⟩
    · exact ⟨Classical.arbitrary β, fun c hc => absurd ⟨c, hc⟩ hex⟩
  choose f hf using hchoice
  have hmap : ∀ {as : List α} {bs : List β}, List.Forall₂ R as bs → bs = as.map f := by
    intro as bs h
    rw [← List.forall₂_eq_eq_eq, List.forall₂_map_right_iff]
    exact h.flip.imp fun b a hab => (hf a b hab).symm
  exact ⟨f, hmap h, hmap h'⟩

/-- Two lists in step with a list and with more of it, where a step leaves no choice. -/
theorem isPrefix_of_forall₂ {S : α → β → Prop} {as' : List α} {cs : List β} (h : as <+: as')
    (hsame : ∀ a b c, R a b → S a c → b = c) (hbs : List.Forall₂ R as bs)
    (hcs : List.Forall₂ S as' cs) : bs <+: cs := by
  induction hbs generalizing as' cs with
  | nil => exact List.nil_prefix
  | @cons a b rest bs hab _ ih =>
    obtain ⟨more, rfl⟩ := h
    cases hcs with
    | @cons _ c _ cs hac hrest =>
      rw [hsame a b c hab hac, List.cons_prefix_cons]
      exact ⟨rfl, ih (List.prefix_append rest more) hrest⟩

end RpcScaffold
