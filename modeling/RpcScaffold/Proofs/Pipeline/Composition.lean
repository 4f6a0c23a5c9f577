import RpcScaffold.Pipeline.Stages
import RpcScaffold.Proofs.Success

/-!
# Runs one after the other

A run through two lists of stages is a run through the first and then a run through the second, on
the data and under the flag that the first left. What was noted before is only carried along, and a
stage is started only while the flag is not set.
-/

namespace RpcScaffold.Pipeline

variable {c : Context} {data : StageData}

/-! ## One stage -/

theorem run_of_cancelled (hc : c.cancelled = true) (s : Stage) (rest : List Stage) :
    run c data (s :: rest) = .error .cancelled := by
  rw [run, if_pos hc]
  rfl

theorem run_cons (hc : c.cancelled = false) (data : StageData) (s : Stage) (rest : List Stage) :
    run c data (s :: rest) =
      s.run c.settings false data >>= fun r => run (c.after s r) r.data rest := by
  rw [run, hc]
  rfl

theorem run_cons_eq_ok {s : Stage} {rest : List Stage} {report : Report} :
    run c data (s :: rest) = .ok report ↔ c.cancelled = false ∧
      ∃ r, s.run c.settings false data = .ok r ∧ run (c.after s r) r.data rest = .ok report := by
  cases hc : c.cancelled with
  | true => simp [run_of_cancelled hc]
  | false => simp [run_cons hc, bind_eq_ok]

/-! ## Two lists of stages -/

def Context.cleared (c : Context) : Context := { c with diagnostics := [] }

/-- The context of a run behind one that ended with `r`. Nothing is noted in it yet. -/
def Context.following (c : Context) (r : Report) : Context where
  settings := c.settings
  cancelled := r.cancelled

/-- The report of two runs one after the other. -/
def Report.followedBy (r r' : Report) : Report :=
  { r' with diagnostics := r.diagnostics ++ r'.diagnostics }

/-- No stage reads what was noted before it. -/
theorem run_eq_map_cleared (c : Context) (data : StageData) (stages : List Stage) :
    run c data stages = (run c.cleared data stages).map fun r =>
      { r with diagnostics := c.diagnostics ++ r.diagnostics } := by
  induction stages generalizing c data with
  | nil => simp [run, Context.cleared, Except.map]
  | cons s rest ih =>
    cases hc : c.cancelled with
    | true =>
      have hcleared : c.cleared.cancelled = true := hc
      rw [run_of_cancelled hc, run_of_cancelled hcleared]
      rfl
    | false =>
      have hcleared : c.cleared.cancelled = false := hc
      rw [run_cons hc, run_cons hcleared]
      change s.run c.settings false data >>= _ = (s.run c.settings false data >>= _).map _
      cases s.run c.settings false data with
      | error e => rfl
      | ok r =>
        change run (c.after s r) r.data rest = (run (c.cleared.after s r) r.data rest).map _
        have hafter : (c.cleared.after s r).cleared = (c.after s r).cleared := rfl
        rw [ih (c.after s r), ih (c.cleared.after s r), hafter]
        cases run (c.after s r).cleared r.data rest with
        | error e => rfl
        | ok report => simp [Except.map, Context.after, Context.cleared]

theorem run_append (c : Context) (data : StageData) (first second : List Stage) :
    run c data (first ++ second) =
      run c data first >>= fun r => (run (c.following r) r.output second).map r.followedBy := by
  induction first generalizing c data with
  | nil => exact run_eq_map_cleared c data second
  | cons s rest ih =>
    rw [List.cons_append]
    cases hc : c.cancelled with
    | true =>
      rw [run_of_cancelled hc, run_of_cancelled hc]
      rfl
    | false =>
      rw [run_cons hc, run_cons hc]
      cases s.run c.settings false data with
      | error e => rfl
      | ok r => exact ih (c.after s r) r.data

/-! ## What the stages did -/

/-- Each stage was started with the flag not set, on what the stage before it made, and ended with
its result. -/
inductive Passes : Context → StageData → List Stage → List StageResult → Prop
  | nil {c : Context} {data : StageData} : Passes c data [] []
  | cons {c : Context} {data : StageData} {s : Stage} {rest : List Stage} {r : StageResult}
    {results : List StageResult} (hc : c.cancelled = false)
    (hrun : s.run c.settings false data = .ok r)
    (hrest : Passes (c.after s r) r.data rest results) :
    Passes c data (s :: rest) (r :: results)

/-- What a run notes of one stage: that it starts, what the stage noted, and that it ended. -/
def entries (s : Stage) (r : StageResult) : List Diagnostic :=
  note "pipeline.stage.start" ("starting stage " ++ s.id) [] :: r.notes
    ++ [note "pipeline.stage.end" ("completed stage " ++ s.id) []]

theorem diagnostics_after (c : Context) (s : Stage) (r : StageResult) :
    (c.after s r).diagnostics = c.diagnostics ++ entries s r := rfl

theorem getD_getLast?_cons {α β : Type} (f : α → β) (a : α) (as : List α) (b : β) :
    ((a :: as).getLast?.map f).getD b = (as.getLast?.map f).getD (f a) := by
  rw [List.getLast?_cons]
  cases as.getLast? <;> rfl

theorem exists_passes {stages : List Stage} {report : Report}
    (h : run c data stages = .ok report) :
    ∃ results, Passes c data stages results ∧
      report.output = (results.getLast?.map (·.data)).getD data ∧
      report.diagnostics = c.diagnostics ++ (List.zipWith entries stages results).flatten := by
  induction stages generalizing c data with
  | nil =>
    cases h
    exact ⟨[], .nil, rfl, by simp⟩
  | cons s rest ih =>
    obtain ⟨hc, r, hr, hrest⟩ := run_cons_eq_ok.mp h
    obtain ⟨results, hpasses, houtput, hnotes⟩ := ih hrest
    refine ⟨r :: results, .cons hc hr hpasses, ?_, ?_⟩
    · rw [houtput, getD_getLast?_cons]
    · rw [hnotes, diagnostics_after, List.zipWith_cons_cons, List.flatten_cons, List.append_assoc]

/-! ## Which stages are started -/

/-- The run starts its stage at place `i` on the data `d`. -/
inductive Starts : Context → StageData → List Stage → Nat → StageData → Prop
  | here {c : Context} {data : StageData} {s : Stage} {rest : List Stage}
    (hc : c.cancelled = false) : Starts c data (s :: rest) 0 data
  | later {c : Context} {data d : StageData} {s : Stage} {rest : List Stage} {r : StageResult}
    {i : Nat} (hc : c.cancelled = false) (hrun : s.run c.settings false data = .ok r)
    (h : Starts (c.after s r) r.data rest i d) : Starts c data (s :: rest) (i + 1) d

/-- A stage is started if and only if those before it succeed and the flag is not set then. -/
theorem starts_iff {stages : List Stage} {i : Nat} {d : StageData} :
    Starts c data stages i d ↔ i < stages.length ∧
      ∃ r, run c data (stages.take i) = .ok r ∧ r.cancelled = false ∧ r.output = d := by
  induction stages generalizing c data i with
  | nil =>
    constructor
    · rintro ⟨⟩
    · rintro ⟨h, -⟩
      exact absurd h (Nat.not_lt_zero i)
  | cons s rest ih =>
    cases i with
    | zero =>
      rw [List.take_zero]
      constructor
      · rintro ⟨hc⟩
        exact ⟨Nat.zero_lt_succ _, _, rfl, hc, rfl⟩
      · rintro ⟨-, _, ⟨⟩, hc, rfl⟩
        exact .here hc
    | succ i =>
      rw [List.take_succ_cons, List.length_cons, Nat.succ_lt_succ_iff]
      simp only [run_cons_eq_ok]
      constructor
      · intro h
        cases h with
        | later hc hr h =>
          obtain ⟨hi, report, hrun, hflag, hout⟩ := ih.mp h
          exact ⟨hi, report, ⟨hc, _, hr, hrun⟩, hflag, hout⟩
      · rintro ⟨hi, report, ⟨hc, r, hr, hrun⟩, hflag, hout⟩
        exact .later hc hr (ih.mpr ⟨hi, report, hrun, hflag, hout⟩)

/-- A flag that is set stays set. -/
theorem cancelled_of_run {stages : List Stage} {report : Report}
    (h : run c data stages = .ok report) (hc : c.cancelled = true) : report.cancelled = true := by
  cases stages with
  | nil =>
    cases h
    exact hc
  | cons s rest =>
    rw [run_of_cancelled hc] at h
    cases h

theorem lt_of_starts {first second : List Stage} {r : Report} (h : run c data first = .ok r)
    (hr : r.cancelled = true) {i : Nat} {d : StageData}
    (hstart : Starts c data (first ++ second) i d) : i < first.length := by
  obtain ⟨-, report, hrun, hflag, -⟩ := starts_iff.mp hstart
  apply Nat.lt_of_not_le
  intro hi
  rw [List.take_append, List.take_of_length_le hi, run_append, bind_eq_ok] at hrun
  obtain ⟨r', hfirst, hrun⟩ := hrun
  obtain rfl : r' = r := Except.ok.inj (hfirst.symm.trans h)
  obtain ⟨r'', hsecond, rfl⟩ := map_eq_ok.mp hrun
  have hset : r''.cancelled = true := cancelled_of_run hsecond hr
  exact Bool.false_ne_true (hflag.symm.trans hset)

/-- A run through two lists of stages fails as the first run does or as the second does behind it,
and otherwise ends as the second with the diagnostics of both. A run that succeeds adds to the
diagnostics what belongs to each stage, in order. A stage is started if those before it succeed and
leave the flag as it was; once the flag is set no further one is started, and the run fails as
cancelled. -/
theorem run_composes (c : Context) (data : StageData) (first second : List Stage) :
    (∀ e, run c data (first ++ second) = .error e ↔
      run c data first = .error e ∨ ∃ r, run c data first = .ok r ∧
        run (c.following r) r.output second = .error e) ∧
    (∀ report, run c data (first ++ second) = .ok report ↔
      ∃ r r', run c data first = .ok r ∧ run (c.following r) r.output second = .ok r' ∧
        r.followedBy r' = report) ∧
    (∀ r, run c data first = .ok r → ∃ results, Passes c data first results ∧
      r.output = (results.getLast?.map (·.data)).getD data ∧
      r.diagnostics = c.diagnostics ++ (List.zipWith entries first results).flatten) ∧
    (∀ i d, Starts c data first i d ↔ i < first.length ∧
      ∃ r, run c data (first.take i) = .ok r ∧ r.cancelled = false ∧ r.output = d) ∧
    ∀ r, run c data first = .ok r → r.cancelled = true → second ≠ [] →
      run c data (first ++ second) = .error .cancelled ∧
      ∀ i d, Starts c data (first ++ second) i d → i < first.length := by
  refine ⟨fun e => ?_, fun report => ?_, fun r h => exists_passes h, fun i d => starts_iff,
    fun r h hr hsecond => ⟨?_, fun i d hstart => lt_of_starts h hr hstart⟩⟩
  · simp only [run_append, bind_eq_error, map_eq_error]
  · simp only [run_append, bind_eq_ok, map_eq_ok]
    constructor
    · rintro ⟨r, hfirst, r', hsecond, heq⟩
      exact ⟨r, r', hfirst, hsecond, heq⟩
    · rintro ⟨r, r', hfirst, hsecond, heq⟩
      exact ⟨r, hfirst, r', hsecond, heq⟩
  · obtain ⟨s, rest, rfl⟩ := List.exists_cons_of_ne_nil hsecond
    have hflag : (c.following r).cancelled = true := hr
    rw [run_append, h]
    change (run (c.following r) r.output (s :: rest)).map _ = _
    rw [run_of_cancelled hflag]
    rfl

/-- Cancels the run behind it. -/
def closing : Stage where
  id := "close"
  run _ _ d := .ok { data := d, notes := [note "close" "no further stage" []], cancels := true }

theorem run_composes_closing : ∃ r,
    run {} (.graph {}) [.schema "emit.schema", closing] = .ok r ∧ r.cancelled = true ∧
    [Stage.adapters "emit.adapters"] ≠ [] ∧
    run {} (.graph {}) [.schema "emit.schema", closing, .adapters "emit.adapters"] =
      .error .cancelled := by
  have hsecond : [Stage.adapters "emit.adapters"] ≠ [] := List.cons_ne_nil _ _
  have hrun : run {} (.graph {}) [.schema "emit.schema", closing] = .ok _ := rfl
  obtain ⟨-, -, -, -, hcancelled⟩ :=
    run_composes {} (.graph {}) [.schema "emit.schema", closing] [.adapters "emit.adapters"]
  exact ⟨_, hrun, rfl, hsecond, (hcancelled _ hrun rfl hsecond).1⟩

end RpcScaffold.Pipeline
