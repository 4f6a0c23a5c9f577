import RpcScaffold.Proofs.Discovery.Extension
import RpcScaffold.Proofs.Generation.Agreement

/-!
# Declarations that no service needs

They may say anything, and may as well be gone. Nothing that is generated tells what they were.
-/

namespace RpcScaffold

/-! ## Revised lists -/

/-- Entries are kept up to `keeps`, dropped or added. -/
inductive Revised {α : Type} (keeps : α → α → Prop) (drops adds : α → Prop) :
    List α → List α → Prop
  | nil : Revised keeps drops adds [] []
  | keep {a b : α} {as bs : List α} (h : keeps a b) (hrest : Revised keeps drops adds as bs) :
    Revised keeps drops adds (a :: as) (b :: bs)
  | drop {a : α} {as bs : List α} (h : drops a) (hrest : Revised keeps drops adds as bs) :
    Revised keeps drops adds (a :: as) bs
  | add {b : α} {as bs : List α} (h : adds b) (hrest : Revised keeps drops adds as bs) :
    Revised keeps drops adds as (b :: bs)

namespace Revised

variable {α β : Type} {keeps : α → α → Prop} {drops adds : α → Prop} {as bs : List α}

theorem exists_of_mem (h : Revised keeps drops adds as bs) {a : α} (ha : a ∈ as)
    (hdrop : ¬ drops a) : ∃ b ∈ bs, keeps a b := by
  induction h with
  | nil => cases ha
  | keep hkeep _ ih =>
    rcases List.mem_cons.mp ha with rfl | ha
    · exact ⟨_, List.mem_cons_self, hkeep⟩
    · obtain ⟨b, hb, hab⟩ := ih ha
      exact ⟨b, List.mem_cons_of_mem _ hb, hab⟩
  | drop hdrops _ ih =>
    rcases List.mem_cons.mp ha with rfl | ha
    · exact absurd hdrops hdrop
    · exact ih ha
  | add _ _ ih =>
    obtain ⟨b, hb, hab⟩ := ih ha
    exact ⟨b, List.mem_cons_of_mem _ hb, hab⟩

theorem map_sublist (h : Revised keeps drops adds as bs) {f : α → β}
    (hkeeps : ∀ a b, keeps a b → f b = f a) (hadds : ∀ b, ¬ adds b) :
    (bs.map f).Sublist (as.map f) := by
  induction h with
  | nil => exact .slnil
  | keep hkeep _ ih =>
    rw [List.map_cons, List.map_cons, hkeeps _ _ hkeep]
    exact ih.cons_cons _
  | drop _ _ ih => exact ih.cons _
  | add hadd _ _ => exact absurd hadd (hadds _)

/-- Of the entries that matter, none are dropped or added. -/
theorem forall₂_filter (h : Revised keeps drops adds as bs) {p : α → Bool}
    (hkeeps : ∀ a b, keeps a b → p b = p a) (hdrops : ∀ a, drops a → p a = false)
    (hadds : ∀ b, adds b → p b = false) :
    List.Forall₂ keeps (as.filter p) (bs.filter p) := by
  induction h with
  | nil => exact .nil
  | @keep a b as bs hkeep _ ih =>
    rw [List.filter_cons, List.filter_cons, hkeeps a b hkeep]
    cases p a with
    | true => exact .cons hkeep ih
    | false => exact ih
  | drop hdrop _ ih => simpa [List.filter_cons, hdrops _ hdrop] using ih
  | add hadd _ ih => simpa [List.filter_cons, hadds _ hadd] using ih

end Revised

/-! ## Revised registries -/

/-- The fields may change where the model is not needed, and the mark may change anyway. -/
structure Model.Keeps (needed : List String) (m m' : Model) : Prop where
  name : m'.name = m.name
  fields : m.name ∈ needed → m'.fields = m.fields

/-- Models that are not needed are changed or removed. Services without a mark are removed or added,
and the others keep all but the interfaces that do not count. -/
structure Registry.Revised (needed : List String) (r r' : Registry) : Prop where
  models : RpcScaffold.Revised (Model.Keeps needed) (fun m => m.name ∉ needed) (fun _ => False)
    r.models r'.models
  services : RpcScaffold.Revised (fun s s' => s'.marked = s.marked ∧ s.Keeps s')
    (fun s => s.marked = false) (fun s => s.marked = false) r.services r'.services

variable {r r' : Registry} {s : Settings}

namespace Registry.Revised

variable {needed : List String} (h : r.Revised needed r')
include h

theorem names_sublist : r'.names.Sublist r.names :=
  h.models.map_sublist (fun _ _ hkeep => hkeep.name) fun _ hadd => hadd

theorem keeps (hr : r.names.Nodup) {name : String} (hname : name ∈ needed) : r.Keeps r' name := by
  intro m hm
  obtain ⟨hmem, rfl⟩ := (Registry.model?_eq_some hr).mp hm
  obtain ⟨m', hm', hkeep⟩ := h.models.exists_of_mem hmem (not_not_intro hname)
  have hr' : r'.names.Nodup := hr.sublist h.names_sublist
  exact ⟨m', (Registry.model?_eq_some hr').mpr ⟨hm', hkeep.name⟩, hkeep.fields hname⟩

theorem markedServices : List.Forall₂ Service.Keeps r.markedServices r'.markedServices := by
  have hmarked := h.services.forall₂_filter (p := (·.marked)) (fun _ _ hkeep => hkeep.1)
    (fun _ hdrop => hdrop) fun _ hadd => hadd
  exact hmarked.imp fun _ _ hkeep => hkeep.2

end Registry.Revised

theorem discover_of_revised {n : Naming} {g : ServiceGraph} (h : discover r n = .ok g)
    (hrevised : r.Revised (g.records.flatMap (·.referencedModels)) r') :
    discover r' n = .ok g := by
  have hg := discovers_of_ok h
  obtain ⟨-, hmodels, -⟩ := discover_eq_ok.mp h
  apply discover_of_keeps h
  · exact checkModels_of_subperm hmodels hrevised.names_sublist.subperm
  · exact hrevised.markedServices
  · intro name hname
    rw [← hg.exposes_iff, hg.messages, mem_pending] at hname
    exact hrevised.keeps hg.distinctNames hname.1

/-- The same graph, the same artifacts and the same notes, whatever becomes of the declarations that
are not needed. -/
theorem generate_revised {gen : Generation} (h : generate r s = .ok gen)
    (hrevised : r.Revised (gen.graph.records.flatMap (·.referencedModels)) r') :
    generate r' s = .ok gen :=
  generate_of_discover_eq h (discover_of_revised (discover_of_generate h) hrevised)

/-- No service needs a note or a memo. -/
def pingPongSpare : Registry where
  models := (pingPong ["Echo"]).models ++ [
    { name := "Note", fields := [{ name := "about", type := .string }] }, { name := "Memo" }]
  services := (pingPong ["Echo"]).services

/-- A note with a type that is not supported and one that is not declared, no memo, and methods that
no service may have. -/
def pingPongRevised : Registry where
  models := (pingPong ["Echo"]).models.map (fun m => { m with marked := true }) ++ [
    { name := "Note", fields := [
      { name := "about", type := .named "Missing" }, { name := "words", type := .map .string .int32 }] }]
  services := (pingPong ["Echo"]).services.map (fun s => { s with
    interfaces := s.interfaces ++ [{ name := "Admin", methods := [
      { name := "stop", returns := .blocking (.named "Missing") }] }] }) ++ [
    { name := "Draft", marked := false, models := ["Missing"] }]

theorem generate_revised_pingPong : ∃ gen, generate pingPongSpare {} = .ok gen ∧
    generate pingPongRevised {} = .ok gen := by
  obtain ⟨gen, hgen, hrecords, -⟩ := exists_generate_pingPong
  have hextends : (pingPong ["Echo"]).Extends pingPongSpare := ⟨List.prefix_append _ _, List.prefix_rfl⟩
  have hspare : generate pingPongSpare {} = .ok gen := by
    apply generate_of_discover_eq hgen
    apply discover_of_keeps (discover_of_generate hgen)
    · decide +kernel
    · exact List.forall₂_same.mpr fun s _ => .refl s
    · exact fun name _ => hextends.keeps name
  have hrevised : pingPongSpare.Revised (gen.graph.records.flatMap (·.referencedModels))
      pingPongRevised := by
    rw [hrecords]
    constructor
    · exact .keep ⟨rfl, fun _ => rfl⟩ (.keep ⟨rfl, fun _ => rfl⟩
        (.keep ⟨rfl, by decide⟩ (.drop (by decide) .nil)))
    · exact .keep ⟨rfl, rfl, rfl, rfl⟩ (.add rfl .nil)
  exact ⟨gen, hspare, generate_revised hspare hrevised⟩

end RpcScaffold
