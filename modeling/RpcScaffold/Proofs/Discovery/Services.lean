import RpcScaffold.Proofs.Discovery.Models

/-! # Which services pass the checks -/

namespace RpcScaffold

/-! ## Names and interfaces -/

theorem shortName_eq_ok {ending name short : String} :
    shortName ending name = .ok short ↔ short ≠ "" ∧ name = short ++ ending := by
  rw [shortName]
  simp only [← String.toList_inj, String.toList_append, String.toList_empty, ne_eq]
  constructor
  · split_ifs with h
    · obtain ⟨⟨front, hfront⟩, hlt⟩ := h
      rintro ⟨⟩
      rw [← hfront] at hlt ⊢
      simp only [List.length_append, Nat.lt_add_left_iff_pos] at hlt
      constructor
      · simpa using List.ne_nil_of_length_pos hlt
      · simp
    · simp
  · rintro ⟨hne, hname⟩
    have hpos := List.length_pos_of_ne_nil hne
    rw [if_pos ⟨⟨_, hname.symm⟩, by simp [hname]; omega⟩]
    simp [hname]

theorem interface_eq_ok {s : Service} {i : Interface} :
    s.interface = .ok i ↔ s.interfaces.find? (·.marked) = some i := by
  rw [Service.interface]
  cases s.interfaces.find? (·.marked) with
  | none => simp
  | some j => simp

/-! ## Methods -/

theorem declaredModel_eq_ok {m : Method} {r : Registry} {t : DomainType} {model : String} :
    m.declaredModel r t = .ok model ↔ t = .named model ∧ model ∈ r.names := by
  unfold Method.declaredModel
  cases t with
  | named name =>
    simp only [DomainType.named.injEq, Registry.declares_iff]
    split_ifs with h
    · simp only [Except.ok.injEq]
      constructor
      · rintro rfl
        exact ⟨rfl, h⟩
      · exact And.left
    · simp only [false_iff, not_and]
      rintro rfl
      exact h
  | _ => simp

/-- The contract of a method that takes `c.input` and gives `c.output`. -/
structure IsContract (m : Method) (r : Registry) (c : Contract) : Prop where
  name : c.name = m.name
  params : m.params = [.named c.input]
  returns : m.returns = .async (.named c.output)
  input : c.input ∈ r.names
  output : c.output ∈ r.names

theorem contract_eq_ok {m : Method} {r : Registry} {c : Contract} :
    m.contract r = .ok c ↔ IsContract m r c := by
  rw [Method.contract]
  constructor
  · intro h
    split at h
    · simp at h
    · next input hparams =>
      split at h
      · next output hreturns =>
        simp only [bind_eq_ok, pure_eq_ok, declaredModel_eq_ok] at h
        obtain ⟨i, ⟨rfl, hi⟩, o, ⟨rfl, ho⟩, rfl⟩ := h
        exact ⟨rfl, hparams, hreturns, hi, ho⟩
      all_goals simp at h
    · simp at h
  · rintro ⟨hname, hparams, hreturns, hi, ho⟩
    simp only [hparams, hreturns, bind_eq_ok, pure_eq_ok, declaredModel_eq_ok]
    refine ⟨_, ⟨rfl, hi⟩, _, ⟨rfl, ho⟩, ?_⟩
    rw [← hname]

theorem exists_isContract {m : Method} {r : Registry} :
    (∃ c, IsContract m r c) ↔ m.Accepted r := by
  constructor
  · rintro ⟨c, hc⟩
    exact ⟨c.input, hc.input, c.output, hc.output, hc.params, hc.returns⟩
  · rintro ⟨input, hi, output, ho, hparams, hreturns⟩
    exact ⟨⟨m.name, input, output⟩, rfl, hparams, hreturns, hi, ho⟩

theorem IsContract.models_eq {m : Method} {r : Registry} {c : Contract} (h : IsContract m r c) :
    m.models = [c.input, c.output] := by
  rw [Method.models, h.params, h.returns]
  rfl

theorem IsContract.unique {m : Method} {r : Registry} {c c' : Contract} (h : IsContract m r c)
    (h' : IsContract m r c') : c = c' := by
  have hname : c.name = c'.name := h.name.trans h'.name.symm
  have hparams : [DomainType.named c.input] = [.named c'.input] := h.params.symm.trans h'.params
  have hreturns : Returns.async (.named c.output) = .async (.named c'.output) :=
    h.returns.symm.trans h'.returns
  cases c
  cases c'
  simp only [List.cons.injEq, DomainType.named.injEq, Returns.async.injEq, and_true]
    at hname hparams hreturns
  rw [hname, hparams, hreturns]

theorem contractsFrom_eq_ok {i : Interface} {r : Registry} {methods : List Method}
    {taken : List String} {contracts : List Contract} :
    i.contractsFrom r taken methods = .ok contracts ↔
      List.Forall₂ (fun m c => IsContract m r c) methods contracts ∧
      Free taken (methods.map fun m => Naming.rpcMethod m.name) := by
  induction methods generalizing taken contracts with
  | nil =>
    rw [Interface.contractsFrom]
    simp [eq_comm]
  | cons m rest ih =>
    rw [Interface.contractsFrom]
    simp only [bind_eq_ok, contract_eq_ok, throw_else_eq_ok, pure_eq_ok, ih, List.map_cons,
      free_cons, List.contains_iff_mem]
    constructor
    · rintro ⟨c, hc, hname, others, ⟨hothers, hfree⟩, rfl⟩
      rw [hc.name] at hname hfree
      exact ⟨.cons hc hothers, hname, hfree⟩
    · rintro ⟨hcontracts, hname, hfree⟩
      cases hcontracts with
      | @cons _ c _ others hc hothers =>
        rw [← hc.name] at hname hfree
        exact ⟨c, hc, hname, others, ⟨hothers, hfree⟩, rfl⟩

theorem contracts_eq_ok {i : Interface} {r : Registry} {contracts : List Contract} :
    i.contracts r = .ok contracts ↔
      List.Forall₂ (fun m c => IsContract m r c) i.methods contracts ∧
      (i.methods.map fun m => Naming.rpcMethod m.name).Nodup := by
  rw [Interface.contracts, contractsFrom_eq_ok, free_of_nil]

end RpcScaffold
