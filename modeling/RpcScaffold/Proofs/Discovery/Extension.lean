import RpcScaffold.Proofs.Discovery.Keeping

/-!
# Registries with more declarations

Declarations that come behind those of a registry find other names to refer to, but nothing that was
declared before means anything else. So the graph of the first registry starts that of the second.
-/

namespace RpcScaffold

/-- `r'` declares what `r` declares, and then more. -/
structure Registry.Extends (r r' : Registry) : Prop where
  models : r.models <+: r'.models
  services : r.services <+: r'.services

namespace Registry.Extends

variable {r r' : Registry} (h : r.Extends r')
include h

theorem model?_eq_some {name : String} {m : Model} (hm : r.model? name = some m) :
    r'.model? name = some m := by
  obtain ⟨more, hmore⟩ := h.models
  rw [Registry.model?] at hm ⊢
  rw [← hmore, List.find?_append, hm]
  rfl

theorem markedServices : r.markedServices <+: r'.markedServices :=
  h.services.filter _

theorem keeps (name : String) : r.Keeps r' name :=
  fun m hm => ⟨m, h.model?_eq_some hm, rfl⟩

end Registry.Extends

variable {r r' : Registry} {n : Naming} {g g' : ServiceGraph}

/-! ## Messages -/

theorem Catalog.Built.forall₂ {c : Catalog} (h : c.Built r n) :
    List.Forall₂ (fun name message => ∃ m, r.model? name = some m ∧
      Message.ofModel n m = .ok message) c.names c.toList := by
  rw [Catalog.names, List.forall₂_map_left_iff, List.forall₂_same]
  exact h.ofModel

namespace Discovers

variable (hg : Discovers r n g) (hg' : Discovers r' n g') (h : r.Extends r')
include hg hg' h

theorem records_extend : g.records <+: g'.records := by
  have hsame : ∀ s record record', IsRecord r n s record → IsRecord r' n s record' →
      record = record' := fun s _ _ hr hr' =>
    (hr.of_keeps (.refl s) (fun name _ => h.keeps name) hg'.distinctNames).unique hr'
  exact isPrefix_of_forall₂ h.markedServices hsame hg.records hg'.records

theorem names_extend : g.messages.names <+: g'.messages.names := by
  obtain ⟨more, hmore⟩ := hg.records_extend hg' h
  rw [hg.messages, hg'.messages, ← hmore, List.flatMap_append, pending_append]
  exact List.prefix_append _ _

theorem messages_extend : g.messages.toList <+: g'.messages.toList := by
  refine isPrefix_of_forall₂ (hg.names_extend hg' h) ?_ hg.built.forall₂ hg'.built.forall₂
  rintro name message message' ⟨m, hm, hok⟩ ⟨m', hm', hok'⟩
  obtain rfl : m = m' := Option.some.inj ((h.model?_eq_some hm).symm.trans hm')
  exact Except.ok.inj (hok.symm.trans hok')

theorem get?_extend {name : String} {m : Message} (hm : g.messages.get? name = some m) :
    g'.messages.get? name = some m := by
  rw [hg.built.indexed.get?_eq_some] at hm
  rw [hg'.built.indexed.get?_eq_some]
  exact ⟨(hg.messages_extend hg' h).subset hm.1, hm.2⟩

end Discovers

end RpcScaffold
