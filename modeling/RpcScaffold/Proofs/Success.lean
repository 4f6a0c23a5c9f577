import RpcScaffold.Failure

/-! # When a run succeeds

A run that may fail succeeds if all of its steps do. These lemmas take it apart.
-/

namespace RpcScaffold

variable {ε α β : Type}

theorem bind_eq_ok {x : Except ε α} {f : α → Except ε β} {b : β} :
    (x >>= f) = .ok b ↔ ∃ a, x = .ok a ∧ f a = .ok b := by
  cases x with
  | error e => simp [bind, Except.bind]
  | ok a => simp [bind, Except.bind]

/-- A run fails at its first step that fails. -/
theorem bind_eq_error {x : Except ε α} {f : α → Except ε β} {e : ε} :
    (x >>= f) = .error e ↔ x = .error e ∨ ∃ a, x = .ok a ∧ f a = .error e := by
  cases x with
  | error e' => simp [bind, Except.bind]
  | ok a => simp [bind, Except.bind]

theorem pure_eq_ok {a b : α} : (pure a : Except ε α) = .ok b ↔ a = b := by
  simp [pure, Except.pure]

theorem map_eq_ok {x : Except ε α} {f : α → β} {b : β} :
    x.map f = .ok b ↔ ∃ a, x = .ok a ∧ f a = b := by
  cases x with
  | error e => simp [Except.map]
  | ok a => simp [Except.map]

theorem map_eq_error {x : Except ε α} {f : α → β} {e : ε} :
    x.map f = .error e ↔ x = .error e := by
  cases x with
  | error e' => simp [Except.map]
  | ok a => simp [Except.map]

theorem mapError_eq_ok {ε' : Type} {x : Except ε α} {f : ε → ε'} {a : α} :
    x.mapError f = .ok a ↔ x = .ok a := by
  cases x with
  | error e =>
    constructor
    · intro h
      cases h
    · intro h
      cases h
  | ok a' =>
    constructor
    · intro h
      cases h
      rfl
    · intro h
      cases h
      rfl

/-- A check whose failure ends the run. -/
theorem throw_else_eq_ok {c : Prop} [Decidable c] {e : ε} {x : Except ε β} {b : β} :
    (if c then throw e else x) = .ok b ↔ ¬ c ∧ x = .ok b := by
  by_cases h : c
  · simp [h, throw, throwThe, MonadExceptOf.throw]
  · simp [h]

/-- The same, with the rest of the run repeated behind the failure. -/
theorem check_eq_ok {c : Prop} [Decidable c] {e : ε} {f : α → Except ε β} {x : Except ε β} {b : β} :
    (if c then (throw e : Except ε α) >>= f else x) = .ok b ↔ ¬ c ∧ x = .ok b :=
  throw_else_eq_ok

/-! ## Two runs -/

/-- Both runs fail, or both succeed with related results. -/
inductive Alike (R : α → β → Prop) : Except ε α → Except ε β → Prop
  | error (e e' : ε) : Alike R (.error e) (.error e')
  | ok {a : α} {b : β} (h : R a b) : Alike R (.ok a) (.ok b)

namespace Alike

theorem of_ok {R : α → β → Prop} {x : Except ε α} {y : Except ε β}
    (hx : ∀ a, x = .ok a → ∃ b, y = .ok b ∧ R a b) (hy : ∀ b, y = .ok b → ∃ a, x = .ok a) :
    Alike R x y := by
  cases x with
  | ok a =>
    obtain ⟨b, rfl, h⟩ := hx a rfl
    exact .ok h
  | error e =>
    cases y with
    | error e' => exact .error e e'
    | ok b =>
      obtain ⟨a, ha⟩ := hy b rfl
      cases ha

theorem exists_of_ok {R : α → β → Prop} {x : Except ε α} {y : Except ε β} {a : α}
    (h : Alike R x y) (hx : x = .ok a) : ∃ b, y = .ok b ∧ R a b := by
  cases h with
  | error e e' => cases hx
  | @ok _ b hab =>
    cases hx
    exact ⟨b, rfl, hab⟩

theorem refl (x : Except ε α) : Alike Eq x x := by
  cases x with
  | error e => exact .error e e
  | ok a => exact .ok rfl

theorem imp {R S : α → β → Prop} {x : Except ε α} {y : Except ε β} (h : Alike R x y)
    (hRS : ∀ a b, R a b → S a b) : Alike S x y := by
  cases h with
  | error e e' => exact .error e e'
  | ok hab => exact .ok (hRS _ _ hab)

/-- Two runs that are both alike a third. -/
theorem meet {f : α → β} {x y : Except ε α} {z : Except ε β}
    (hx : Alike (fun a b => b = f a) x z) (hy : Alike (fun a b => b = f a) y z) :
    Alike (fun a a' => f a = f a') x y := by
  cases hx with
  | error e e' =>
    cases hy
    exact .error _ _
  | ok ha =>
    cases hy with
    | ok ha' => exact .ok (ha.symm.trans ha')

/-- What goes on alike after runs that are alike. -/
theorem bind {α' β' : Type} {R : α → β → Prop} {S : α' → β' → Prop} {x : Except ε α}
    {y : Except ε β} {f : α → Except ε α'} {f' : β → Except ε β'} (h : Alike R x y)
    (hf : ∀ a b, R a b → Alike S (f a) (f' b)) : Alike S (x >>= f) (y >>= f') := by
  cases h with
  | error e e' => exact .error e e'
  | ok hab => exact hf _ _ hab

end Alike

end RpcScaffold
