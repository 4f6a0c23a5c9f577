import RpcScaffold.CommandLine.Commands
import RpcScaffold.Proofs.ByteOrder
import RpcScaffold.Proofs.CopiedSources.Staging
import RpcScaffold.Proofs.Generation.Agreement

/-!
# What is prepared before a write

All that can fail but the write itself comes first, and none of it changes a file. Artifacts are only
ever added, each at a path of its own, so their numbers add up.
-/

namespace RpcScaffold

/-! ## Bundles that gain artifacts -/

/-- The second bundle has so many artifacts more. The order of the paths is kept. -/
structure Bundle.Gains (b : Bundle) (n : Nat) (b' : Bundle) : Prop where
  size : b'.size = b.size + n
  sorted : b.artifacts.Sorted → b'.artifacts.Sorted

namespace Bundle.Gains

variable {b b' b'' : Bundle}

theorem refl (b : Bundle) : b.Gains 0 b := ⟨rfl, id⟩

theorem trans {n m : Nat} (h : b.Gains n b') (h' : b'.Gains m b'') : b.Gains (n + m) b'' :=
  ⟨by rw [h'.size, h.size, Nat.add_assoc], fun hb => h'.sorted (h.sorted hb)⟩

theorem of_insert {path text : String} {kind : ArtifactKind}
    (h : b.insert path kind text = .ok b') : b.Gains 1 b' := by
  obtain ⟨hfree, rfl⟩ := insert_eq_ok.mp h
  exact ⟨length_insertEntry hfree, fun hb => hb.insert⟩

theorem of_insertAll {artifacts : List (String × Artifact)} (h : b.insertAll artifacts = .ok b') :
    b.Gains artifacts.length b' := by
  induction artifacts generalizing b with
  | nil =>
    cases h
    exact .refl _
  | cons a rest ih =>
    rw [insertAll_cons, bind_eq_ok] at h
    obtain ⟨next, hnext, hrest⟩ := h
    rw [List.length_cons, Nat.add_comm]
    exact (of_insert hnext).trans (ih hrest)

end Bundle.Gains

/-! ## Sources that are copied -/

namespace CopiedSources

theorem gains_collect {t t' : FileTree} {directory target : String} {b b' : Bundle} {n : Nat}
    (hr : (collect directory target b).Runs t (.ok n, b') t') : b.Gains n b' := by
  obtain ⟨m, hgains, hm⟩ := keeps_collect (P := b.Gains)
    (fun _ _ _ _ _ _ _ _ _ hv hinsert => hv.trans (.of_insert hinsert)) (.refl b) hr
  rwa [hm n rfl]

end CopiedSources

namespace CommandLine

open FileAction FileProgram

variable {t t' : FileTree} {a : GenerateArguments}

/-! ## Each step looks -/

theorem onlyLooks_loadDescriptor (path : String) : OnlyLooks (loadDescriptor path) :=
  (looks_read path).bind_ok (fun _ => looks_pure _ _) fun _ => ⟨_, rfl, not_succeeds_error _⟩

theorem onlyLooks_collect (directory : Option String) (target : String) (b : Bundle) :
    OnlyLooks (collect directory target b) := by
  cases directory with
  | none => exact looks_pure _ _
  | some directory =>
    refine (CopiedSources.looks_collect directory target b).bind ?_ ?_
    · rintro ⟨_ | _, _⟩
      · exact looks_pure _ _
      · exact looks_pure _ _
    · rintro ⟨failure | n, b'⟩ t r t' hbad hrun
      · rw [(FileProgram.runs_pure.mp hrun).1]
        exact not_succeeds_error _
      · exact absurd (succeeds_ok n) hbad

/-- Nothing changes before the write. -/
theorem onlyLooks_prepare (a : GenerateArguments) : OnlyLooks (prepare a) := by
  refine (onlyLooks_loadDescriptor a.descriptor).bind fun d => ?_
  refine (onlyLooks_mk_pure _).bind fun g => ?_
  refine (onlyLooks_collect _ _ _).bind fun ⟨models, copied⟩ => ?_
  refine (onlyLooks_collect _ _ _).bind fun ⟨services, all⟩ => ?_
  refine (onlyLooks_mk_pure _).bind fun known => ?_
  exact (onlyLooks_mk_pure _).bind fun complete => onlyLooks_mk_pure _

/-! ## The numbers -/

/-- The artifacts come in the order of the bytes of their paths: those of the generation, the copies
and the instructions. -/
structure Prepared.Accounted (p : Prepared) : Prop where
  ordered : (p.bundle.paths.map bytesOf).Pairwise (· < ·)
  count : p.bundle.paths.length = p.stats.artifacts + p.copied + 1

theorem gains_collect {directory : Option String} {target : String} {b b' : Bundle} {n : Nat}
    (hr : (collect directory target b).run.Runs t (.ok (n, b')) t') : b.Gains n b' := by
  cases directory with
  | none =>
    obtain ⟨heq, -⟩ := FileProgram.runs_pure.mp hr
    obtain ⟨rfl, rfl⟩ := Prod.mk.inj (Except.ok.inj heq)
    exact .refl _
  | some directory =>
    obtain ⟨⟨answer, next⟩, u, hcollect, hrest⟩ := FileProgram.runs_bind.mp hr
    cases answer with
    | ok k =>
      obtain ⟨rfl, rfl⟩ := Prod.mk.inj (Except.ok.inj (FileProgram.runs_pure.mp hrest).1)
      exact CopiedSources.gains_collect hcollect
    | error f => cases (FileProgram.runs_pure.mp hrest).1

theorem runs_orFail {α : Type} {r : Except Failure α} {x : α} :
    (orFail r).run.Runs t (.ok x) t' ↔ r = .ok x ∧ t' = t := by
  have hrun : (orFail r).run = pure (r.mapError fun f => { message := f.message }) := rfl
  rw [hrun, FileProgram.runs_pure, eq_comm, mapError_eq_ok]

theorem accounted_of_prepare {p : Prepared} (hr : (prepare a).run.Runs t (.ok p) t') :
    p.Accounted := by
  -- The descriptor, the generation, the sources of models and services, the versions and the
  -- instructions, one after the other.
  obtain ⟨d, t₁, -, hr⟩ := runs_bind_ok.mp hr
  obtain ⟨gen, t₂, hgen, hr⟩ := runs_bind_ok.mp hr
  obtain ⟨⟨models, copied⟩, t₃, hmodels, hr⟩ := runs_bind_ok.mp hr
  obtain ⟨⟨services, all⟩, t₄, hservices, hr⟩ := runs_bind_ok.mp hr
  obtain ⟨known, t₅, -, hr⟩ := runs_bind_ok.mp hr
  obtain ⟨complete, t₆, hcomplete, hr⟩ := runs_bind_ok.mp hr
  obtain rfl := Except.ok.inj (FileProgram.runs_pure.mp hr).1
  have hstaged := Bundle.Gains.of_insertAll (insertAll_of_generate (runs_orFail.mp hgen).1)
  have hgains := ((gains_collect hmodels).trans (gains_collect hservices)).trans
    (.of_insert (runs_orFail.mp hcomplete).1)
  have hsorted := hgains.sorted (hstaged.sorted .nil)
  constructor
  · exact List.pairwise_map.mpr (hsorted.names.imp fun h => bytesOf_lt_iff.mpr h)
  · have hlength : complete.paths.length = complete.size := List.length_map _
    have hsize := hgains.size
    change complete.paths.length = gen.bundle.size + (models + services) + 1
    omega

end CommandLine

end RpcScaffold
