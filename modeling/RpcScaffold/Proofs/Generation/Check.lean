import RpcScaffold.Generation
import RpcScaffold.Proofs.Discovery.Acceptance
import RpcScaffold.Proofs.Naming.Letters
import RpcScaffold.Proofs.Pipeline.Composition

/-! # Checking a registry without an artifact -/

namespace RpcScaffold

open Text

/-! ## The settings -/

namespace Settings

theorem check_eq_ok {s : Settings} : s.check = .ok () ↔ s.fault? = none := by
  unfold check
  cases s.fault? with
  | none => simp
  | some fault => simp

theorem check_default : ({} : Settings).check = .ok () := by decide +kernel

/-- What settings without a fault promise of names. -/
structure Sound (s : Settings) : Prop where
  package : isDotted s.package = true
  wirePrefix : isIdentifier s.naming.wirePrefix = true
  timestampPrefix : s.naming.timestampPrefix = "" ∨ isIdentifier s.naming.timestampPrefix = true

theorem sound_of_check {s : Settings} (h : s.check = .ok ()) : s.Sound := by
  rw [Settings.check_eq_ok, fault?] at h
  split_ifs at h with hpackage hwire hsuffix htimestamp
  constructor
  · simpa using hpackage
  · simpa using hwire
  · by_cases hempty : s.naming.timestampPrefix = ""
    · exact .inl hempty
    · right
      simpa [hempty] using htimestamp

theorem crateNames_of_check {s : Settings} (h : s.check = .ok ()) :
    ∀ c ∈ crateNames s.crates, isIdentifier c.2 = true := by
  rw [Settings.check_eq_ok, fault?] at h
  split_ifs at h
  split at h
  · cases h
  · next hcrates =>
    intro c hc
    have hnot := List.find?_eq_none.mp hcrates c hc
    simpa using hnot

namespace Sound

variable {s : Settings} (hs : s.Sound)
include hs

theorem isNamed_wireMessage (model : String) : IsNamed (s.naming.wireMessage model) :=
  (isNamed_of_isIdentifier hs.wirePrefix).append (isNamed_upperCamel model)

theorem isNamed_wireField (field : String) (isTimestamp : Bool) :
    IsNamed (s.naming.wireField field isTimestamp) := by
  have hfield := isNamed_snakeCase field
  unfold Naming.wireField
  split_ifs
  · rcases hs.timestampPrefix with hempty | hident
    · rw [hempty, String.empty_append]
      exact hfield
    · exact (isNamed_of_isIdentifier hident).append hfield
  · exact hfield

end Sound

end Settings

/-! ## The run -/

/-- What discovery hands on. -/
def discovered (g : ServiceGraph) : StageResult where
  data := .graph g
  notes := [note "discover.complete" "service graph built" [
    ("messages", toString g.messages.size), ("services", toString g.records.length)]]

/-- Discovery checks the settings first. -/
theorem discovery_run (id : String) (s : Settings) (r : Registry) :
    (Stage.discovery id).run s false (.registry r) =
      s.check >>= fun _ => discover r s.naming >>= fun g => pure (discovered g) := by
  unfold Stage.discovery
  rfl

theorem check_eq (r : Registry) (s : Settings) :
    check r s = s.check >>= fun _ => discover r s.naming := by
  rw [check, Pipeline.run_cons rfl, discovery_run]
  cases s.check with
  | error e => rfl
  | ok _ =>
    cases discover r s.naming with
    | error e => rfl
    | ok g => rfl

theorem check_eq_ok_iff {r : Registry} {s : Settings} {g : ServiceGraph} :
    check r s = .ok g ↔ s.check = .ok () ∧ discover r s.naming = .ok g := by
  rw [check_eq, bind_eq_ok]
  constructor
  · rintro ⟨_, hs, hg⟩
    exact ⟨hs, hg⟩
  · rintro ⟨hs, hg⟩
    exact ⟨_, hs, hg⟩

end RpcScaffold
