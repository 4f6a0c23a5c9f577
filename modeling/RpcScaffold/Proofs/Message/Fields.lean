import RpcScaffold.Proofs.Discovery.Models

/-!
# Which fields make a message

A message fails at its first field whose type is not mapped or whose wire name was taken. Otherwise
its fields follow the declaration, and fields that are declared behind them change nothing.
-/

namespace RpcScaffold

variable {n : Naming} {m : Model} {message : Message}

/-! ## Refused fields -/

/-- The field is refused behind fields with the wire names `taken`. Its type is looked at first. -/
inductive Model.Field.Refused (n : Naming) (model : String) (taken : List String)
    (f : Model.Field) : Failure → Prop
  | unmapped {u : Unsupported} (h : WireMapping.ofType n f.type = .error u) :
    f.Refused n model taken (.unsupportedType model f.name f.type.print u.reason)
  | repeated {w : WireMapping} (hw : WireMapping.ofType n f.type = .ok w)
    (h : f.wireName n ∈ taken) :
    f.Refused n model taken
      (.invalidArgument s!"model {model} has two fields named {f.wireName n} on the wire")

/-- Every type is mapped, and no two fields have one wire name. -/
def AreFit (n : Naming) (fs : List Model.Field) : Prop :=
  (∀ f ∈ fs, ∃ w, WireMapping.ofType n f.type = .ok w) ∧ (fs.map (·.wireName n)).Nodup

theorem buildField_eq_error {model : String} {taken : List String} {ordinal : Nat}
    (hle : ordinal ≤ Message.maxFields) {f : Model.Field} {e : Failure} :
    Message.buildField n model taken ordinal f = .error e ↔ f.Refused n model taken e := by
  rw [Message.buildField]
  cases hw : WireMapping.ofType n f.type with
  | error u =>
    constructor
    · rintro ⟨⟩
      exact .unmapped hw
    · intro h
      cases h with
      | unmapped h => rw [Except.error.inj (hw.symm.trans h)]
      | repeated hw' => cases hw.symm.trans hw'
  | ok w =>
    have hname : (Message.Field.make n f ordinal w).wireName = f.wireName n := rfl
    simp only [hname, List.contains_iff_mem, gt_iff_lt, if_neg (Nat.not_lt.mpr hle)]
    split_ifs with htaken
    · constructor
      · rintro ⟨⟩
        exact .repeated hw htaken
      · intro h
        cases h with
        | unmapped h => cases hw.symm.trans h
        | repeated => rfl
    · constructor
      · rintro ⟨⟩
      · intro h
        cases h with
        | unmapped h => cases hw.symm.trans h
        | repeated _ h => exact absurd h htaken

theorem Model.Field.Refused.mono {model : String} {taken taken' : List String} {f : Model.Field}
    {e : Failure} (hr : f.Refused n model taken e)
    (h : f.wireName n ∈ taken → f.wireName n ∈ taken') : f.Refused n model taken' e := by
  cases hr with
  | unmapped hmap => exact .unmapped hmap
  | repeated hw hmem => exact .repeated hw (h hmem)

/-- The fields before the first refused one could be taken one after the other. -/
theorem buildFields_eq_error {model : String} {fs : List Model.Field} {taken : List String}
    {ordinal : Nat} (hle : ordinal + fs.length ≤ Message.maxFields + 1) {e : Failure} :
    Message.buildFields n model taken ordinal fs = .error e ↔
      ∃ before f after, fs = before ++ f :: after ∧
        (∀ g ∈ before, ∃ w, WireMapping.ofType n g.type = .ok w) ∧
        Free taken (before.map (·.wireName n)) ∧
        f.Refused n model (before.map (·.wireName n) ++ taken) e := by
  induction fs generalizing taken ordinal with
  | nil => simp [Message.buildFields]
  | cons f rest ih =>
    rw [List.length_cons] at hle
    have hpure : ∀ (x : Message.Field) (y : Except Failure (List Message.Field)),
        (do let ys ← y; pure (x :: ys)) = .error e ↔ y = .error e := by
      intro x y
      simp [bind_eq_error, pure, Except.pure]
    have htaken : ∀ (before : List Model.Field) (g : Model.Field),
        g.Refused n model (before.map (·.wireName n) ++ f.wireName n :: taken) e ↔
          g.Refused n model ((f :: before).map (·.wireName n) ++ taken) e := by
      intro before g
      have hmem : g.wireName n ∈ before.map (·.wireName n) ++ f.wireName n :: taken ↔
          g.wireName n ∈ (f :: before).map (·.wireName n) ++ taken := by
        rw [List.map_cons, List.cons_append, List.mem_append, List.mem_cons, List.mem_cons,
          List.mem_append, or_left_comm]
      exact ⟨fun h => h.mono hmem.mp, fun h => h.mono hmem.mpr⟩
    have hrest : ordinal + 1 + rest.length ≤ Message.maxFields + 1 := by omega
    rw [Message.buildFields, bind_eq_error, buildField_eq_error (by omega)]
    simp only [hpure, buildField_eq_ok, ih hrest]
    constructor
    · rintro (h | ⟨field, ⟨⟨w, hw, rfl⟩, hname, -⟩, before, g, after, rfl, hmapped, hfree, h⟩)
      · exact ⟨[], f, rest, rfl, by simp, free_nil, h⟩
      · exact ⟨f :: before, g, after, rfl, List.forall_mem_cons.mpr ⟨⟨w, hw⟩, hmapped⟩,
          free_cons.mpr ⟨hname, hfree⟩, (htaken before g).mp h⟩
    · rintro ⟨before, g, after, heq, hmapped, hfree, h⟩
      cases before with
      | nil =>
        obtain ⟨rfl, -⟩ := List.cons.inj heq
        exact .inl h
      | cons first before =>
        obtain ⟨rfl, rfl⟩ := List.cons.inj heq
        obtain ⟨⟨w, hw⟩, hmapped⟩ := List.forall_mem_cons.mp hmapped
        obtain ⟨hname, hfree⟩ := free_cons.mp hfree
        exact .inr ⟨_, ⟨⟨w, hw, rfl⟩, hname, by omega⟩, before, g, after, rfl, hmapped, hfree,
          (htaken before g).mpr h⟩

theorem ofModel_eq_error (hfew : m.fields.length < 2 ^ 32) {e : Failure} :
    Message.ofModel n m = .error e ↔
      ∃ before f after, m.fields = before ++ f :: after ∧ AreFit n before ∧
        f.Refused n m.name (before.map (·.wireName n)) e := by
  have hbuild : Message.ofModel n m = .error e ↔
      Message.buildFields n m.name [] 1 m.fields = .error e := by
    rw [Message.ofModel, bind_eq_error]
    simp [pure, Except.pure]
  rw [hbuild, buildFields_eq_error (by rw [Message.maxFields]; omega)]
  simp only [free_of_nil, List.append_nil, AreFit, and_assoc]

/-! ## The fields of a message -/

theorem IsMessage.names_eq (h : IsMessage n m message) :
    message.fields.map (·.name) = m.fields.map (·.name) :=
  h.map_fields_fst fun _ _ ⟨_, _, hfield⟩ => hfield ▸ rfl

theorem IsMessage.types_eq (h : IsMessage n m message) :
    message.fields.map (·.domainType) = m.fields.map (·.type) :=
  h.map_fields_fst fun _ _ ⟨_, _, hfield⟩ => hfield ▸ rfl

theorem IsMessage.ordinals_eq (h : IsMessage n m message) :
    message.fields.map (·.ordinal) = List.range' 1 m.fields.length := by
  rw [← List.zipIdx_map_snd]
  exact h.map_fields fun _ _ ⟨_, _, hfield⟩ => hfield ▸ rfl

theorem IsMessage.fields_extend (h : IsMessage n m message) {more : List Model.Field}
    {message' : Message} (h' : IsMessage n { m with fields := m.fields ++ more } message') :
    message.fields <+: message'.fields := by
  refine isPrefix_of_forall₂ ?_ (fun _ _ _ hd hd' => hd.unique hd') h.fields h'.fields
  simp [List.zipIdx_append]

/-- A model of fewer than `2 ^ 32` fields gives a message if and only if its fields are fit, and
else fails for its first field that is refused. The fields of the message are those of the model,
numbered from 1 on, and fields that are appended to the model leave them as they are. -/
theorem ofModel_fit_or_first_refused (n : Naming) (m : Model) (hfew : m.fields.length < 2 ^ 32) :
    ((∃ message, Message.ofModel n m = .ok message) ↔ AreFit n m.fields) ∧
    (∀ e, Message.ofModel n m = .error e ↔
      ∃ before f after, m.fields = before ++ f :: after ∧ AreFit n before ∧
        f.Refused n m.name (before.map (·.wireName n)) e) ∧
    ∀ message, Message.ofModel n m = .ok message →
      message.fields.map (·.name) = m.fields.map (·.name) ∧
      message.fields.map (·.domainType) = m.fields.map (·.type) ∧
      message.fields.map (·.ordinal) = List.range' 1 m.fields.length ∧
      ∀ more message', Message.ofModel n { m with fields := m.fields ++ more } = .ok message' →
        message.fields <+: message'.fields := by
  refine ⟨?_, fun e => ofModel_eq_error hfew, ?_⟩
  · rw [exists_ofModel_eq_ok, AreFit]
    exact ⟨fun ⟨hmapped, hnames, _⟩ => ⟨hmapped, hnames⟩,
      fun ⟨hmapped, hnames⟩ => ⟨hmapped, hnames, hfew⟩⟩
  · intro message h
    have hm := (ofModel_eq_ok.mp h).1
    exact ⟨hm.names_eq, hm.types_eq, hm.ordinals_eq,
      fun more message' h' => hm.fields_extend (ofModel_eq_ok.mp h').1⟩

/-- Its second field takes the wire name of the first again. The third has no wire type. -/
def twiceTitled : Model where
  name := "Entry"
  fields := [{ name := "Title", type := .string }, { name := "title", type := .bool },
    { name := "letter", type := .char }]

theorem ofModel_fit_or_first_refused_twiceTitled :
    twiceTitled.fields.length < 2 ^ 32 ∧
      Message.ofModel {} twiceTitled =
        .error (.invalidArgument "model Entry has two fields named title on the wire") := by
  have hfew : twiceTitled.fields.length < 2 ^ 32 := by decide
  refine ⟨hfew, ((ofModel_fit_or_first_refused {} twiceTitled hfew).2.1 _).mpr ?_⟩
  refine ⟨[{ name := "Title", type := .string }], { name := "title", type := .bool },
    [{ name := "letter", type := .char }], rfl, ⟨?_, List.nodup_singleton _⟩, ?_⟩
  · simpa using ⟨_, rfl⟩
  · exact .repeated rfl (by decide +kernel)

end RpcScaffold
