import RpcScaffold.Proofs.Converter.Values
import RpcScaffold.Proofs.Naming.Identifiers

/-!
# Converters undo each other

A value of the domain and a value of the wire match if they say the same. Each direction takes a
value to its match, whatever is nested in it, and every exact value has one.
-/

namespace RpcScaffold

open Converter

variable {α : Type} {r : Registry} {s : Settings} {g : ServiceGraph}

/-! ## Lists of fields and of elements -/

theorem lookup_map_of_mem {β γ : Type} {key : β → String} {value : β → γ} {xs : List β}
    (h : (xs.map key).Nodup) {x : β} (hx : x ∈ xs) :
    (xs.map fun x => (key x, value x)).lookup (key x) = some (value x) := by
  induction xs with
  | nil => simp at hx
  | cons y rest ih =>
    rw [List.map_cons, List.nodup_cons] at h
    rcases List.mem_cons.mp hx with rfl | hx
    · simp
    · have hne : key x ≠ key y := by
        intro heq
        exact h.1 (heq ▸ List.mem_map_of_mem hx)
      rw [List.map_cons, List.lookup_cons, beq_false_of_ne hne]
      exact ih h.2 hx

theorem mapM_map_eq_some {β γ δ : Type} {f : γ → Option δ} {p : β → γ} {q : β → δ} {xs : List β}
    (h : ∀ x ∈ xs, f (p x) = some (q x)) : (xs.map p).mapM f = some (xs.map q) := by
  induction xs with
  | nil => rfl
  | cons x rest ih =>
    rw [List.forall_mem_cons] at h
    rw [List.map_cons, List.mapM_cons, h.1, ih h.2]
    rfl

theorem exists_uniform {β : Type} {P : β → Nat → Prop} {xs : List β}
    (h : ∀ x ∈ xs, ∃ enough, ∀ depth ≥ enough, P x depth) :
    ∃ enough, ∀ depth ≥ enough, ∀ x ∈ xs, P x depth := by
  induction xs with
  | nil => exact ⟨0, by simp⟩
  | cons x rest ih =>
    rw [List.forall_mem_cons] at h
    obtain ⟨⟨k, hk⟩, hrest⟩ := h
    obtain ⟨l, hl⟩ := ih hrest
    refine ⟨max k l, ?_⟩
    intro depth hdepth
    rw [List.forall_mem_cons]
    exact ⟨hk depth (by omega), hl depth (by omega)⟩

/-! ## Values that match -/

/-- Both belong to fields of one type, `v` in the domain and `w` on the wire. -/
inductive Matches (g : ServiceGraph) :
    DomainType → (repeats nullable : Bool) → (v w : Value α) → Prop
  | leaf {t a} (ht : Crossing.ofType t = .same) : Matches g t false false (.leaf a) (.leaf a)
  | record {m a b} (hm : m ∈ g.messages.toList)
    (h : ∀ f ∈ m.fields, Matches g f.elementType f.repeats f.nullable (a f) (b f)) :
    Matches g (.named m.name) false false (m.valueOf .domain a) (m.valueOf .wire b)
  | absent {t} : Matches g t false true .absent .absent
  | present {t v w} (h : Matches g t false false v w) :
    Matches g t false true (.present v) (.present w)
  | elements {t} {ps : List (Value α × Value α)} (h : ∀ p ∈ ps, Matches g t false false p.1 p.2) :
    Matches g t true false (.sequence (ps.map (·.1))) (.sequence (ps.map (·.2)))
  | noElements {t} : Matches g t true true .absent (.sequence [])
  | someElements {t} {ps : List (Value α × Value α)} (hps : ps ≠ [])
    (h : ∀ p ∈ ps, Matches g t false false p.1 p.2) :
    Matches g t true true (.present (.sequence (ps.map (·.1)))) (.sequence (ps.map (·.2)))

/-! ## Exact values have a match -/

theorem exists_pairs {side : Side} {R : Value α → Value α → Prop} {vs : List (Value α)}
    (h : ∀ v ∈ vs, ∃ w, R (side.pick v w) (side.pick w v)) :
    ∃ ps : List (Value α × Value α), ps.map (fun p => side.pick p.1 p.2) = vs ∧
      ∀ p ∈ ps, R p.1 p.2 := by
  induction vs with
  | nil => exact ⟨[], rfl, by simp⟩
  | cons v rest ih =>
    rw [List.forall_mem_cons] at h
    obtain ⟨⟨w, hw⟩, hrest⟩ := h
    obtain ⟨ps, rfl, hps⟩ := ih hrest
    refine ⟨(side.pick v w, side.pick w v) :: ps, ?_, List.forall_mem_cons.mpr ⟨hw, hps⟩⟩
    cases side <;> rfl

theorem Exact.exists_matches {side : Side} {t : DomainType} {repeats nullable : Bool} {v : Value α}
    (h : Exact g side t repeats nullable v) :
    ∃ w, Matches g t repeats nullable (side.pick v w) (side.pick w v) := by
  induction h with
  | @leaf t a ht =>
    refine ⟨.leaf a, ?_⟩
    cases side <;> exact .leaf ht
  | @record m a hm _ ih =>
    have : Inhabited (Value α) := ⟨.absent⟩
    choose! b hb using ih
    cases side with
    | domain => exact ⟨m.valueOf .wire b, .record hm hb⟩
    | wire => exact ⟨m.valueOf .domain b, .record hm hb⟩
  | absent =>
    refine ⟨.absent, ?_⟩
    cases side <;> exact .absent
  | present _ ih =>
    obtain ⟨w, hw⟩ := ih
    refine ⟨.present w, ?_⟩
    cases side <;> exact .present hw
  | elements _ ih =>
    obtain ⟨ps, rfl, hps⟩ := exists_pairs ih
    cases side with
    | domain => exact ⟨_, .elements hps⟩
    | wire => exact ⟨_, .elements hps⟩
  | noElements hside =>
    subst hside
    exact ⟨.sequence [], .noElements⟩
  | someElements hside hvs _ ih =>
    subst hside
    obtain ⟨ps, rfl, hps⟩ := exists_pairs ih
    exact ⟨_, .someElements (by simpa using hvs) hps⟩
  | wireElements hside _ ih =>
    subst hside
    obtain ⟨ps, rfl, hps⟩ := exists_pairs ih
    cases ps with
    | nil => exact ⟨.absent, .noElements⟩
    | cons p rest => exact ⟨_, .someElements (List.cons_ne_nil p rest) hps⟩

/-! ## Calls -/

theorem find?_converterModule (h : Discovers r s.naming g) {m : Message}
    (hm : m ∈ g.messages.toList) : (g.messages.toList.find? fun k =>
      Naming.converterModule k.name == Naming.converterModule m.name) = some m := by
  have hnames : ∀ k ∈ g.messages.toList, k.name ∈ r.names := fun k hk =>
    h.declared (h.exposes_iff.mp (List.mem_map_of_mem hk))
  obtain ⟨k, hk⟩ : ∃ k, (g.messages.toList.find? fun k =>
      Naming.converterModule k.name == Naming.converterModule m.name) = some k := by
    rw [← Option.isSome_iff_exists, List.find?_isSome]
    exact ⟨m, hm, by simp⟩
  have hmem := List.mem_of_find?_eq_some hk
  have hmodule : Naming.converterModule k.name = Naming.converterModule m.name := by
    simpa using List.find?_some hk
  have hname : k.name = m.name := List.inj_on_of_nodup_map h.nodup_converterModules
    (hnames k hmem) (hnames m hm) hmodule
  rw [hk, List.inj_on_of_nodup_map h.built.indexed.nodup hmem hm hname]

variable {foreign : Foreign α} {d : Direction} {depth : Nat}

theorem callAt_single (h : Discovers r s.naming g) {m : Message} (hm : m ∈ g.messages.toList)
    (v : Value α) :
    callAt s g foreign d (depth + 1) (function s.naming d false m.name) v =
      ((Module.ofMessage s m).conversion d).apply foreign (callAt s g foreign d depth) v := by
  have hmodule : (function s.naming d false m.name).module = Naming.converterModule m.name := rfl
  rw [callAt, hmodule, find?_converterModule h hm]
  simp only [Option.bind_eq_bind, Option.bind_some]
  rw [Module.apply, if_pos (conversion_name s m d).symm]

theorem callAt_list (h : Discovers r s.naming g) {m : Message} (hm : m ∈ g.messages.toList)
    (v : Value α) :
    callAt s g foreign d (depth + 1) (function s.naming d true m.name) v =
      v.mapElements (callAt s g foreign d depth (function s.naming d false m.name)) := by
  have hne : (function s.naming d true m.name).name ≠
      ((Module.ofMessage s m).conversion d).name := by
    rw [conversion_name]
    exact function_name_ne s.naming d m.name
  have hmodule : (function s.naming d true m.name).module = Naming.converterModule m.name := rfl
  rw [callAt, hmodule, find?_converterModule h hm]
  simp only [Option.bind_eq_bind, Option.bind_some]
  rw [Module.apply, if_neg hne, if_pos (listConversion_name s m d).symm, listConversion_element]
  rfl

/-- The fields of a record are converted one by one. -/
theorem conversion_apply {m : Message} {a b : Message.Field → Value α}
    {call : Function → Value α → Option (Value α)}
    (hfields : ∀ f ∈ m.fields, (d.expr s.naming f).eval
      ⟨foreign, call, m.fields.map fun f => (d.source.ident f, a f)⟩ none = some (b f)) :
    ((Module.ofMessage s m).conversion d).apply foreign call (m.valueOf d.source a) =
      some (m.valueOf d.target b) := by
  rw [Message.valueOf, Conversion.apply, conversion_fields, mapM_map_eq_some]
  · rfl
  · intro f hf
    rw [hfields f hf]
    rfl

/-! ## Crossing -/

variable {n : Naming} {c : Crossing} {env : Env α} {bound : Option (Value α)} {e : Expr}
  {v w : Value α}

theorem eval_option_absent (he : e.eval env bound = some .absent) :
    (c.option n d e).eval env bound = some .absent := by
  cases c with
  | same => exact he
  | _ =>
    simp only [Crossing.option, Expr.eval, he, Option.bind_some]
    rfl

theorem eval_option_present (he : e.eval env bound = some (.present v))
    (hvalue : (c.value n d .bound).eval env (some v) = some w) :
    (c.option n d e).eval env bound = some (.present w) := by
  cases c with
  | same =>
    have hsame : v = w := Option.some.inj hvalue
    rw [← hsame]
    exact he
  | message model =>
    have hcall : env.call (function n d false model) v = some w := hvalue
    simp only [Crossing.option, Expr.eval, he, Option.bind_some, Value.mapPresent, hcall]
    rfl
  | timestamp | decimal =>
    simp only [Crossing.option, Expr.eval, he, Option.bind_some, Value.mapPresent, hvalue]
    rfl

theorem eval_sequence {vs ws : List (Value α)} (he : e.eval env bound = some (.sequence vs))
    (hvalues : vs.mapM (fun v => (c.value n d .bound).eval env (some v)) = some ws)
    (hcall : ∀ model, c = .message model →
      env.call (function n d true model) (.sequence vs) = some (.sequence ws)) :
    (c.sequence n d e).eval env bound = some (.sequence ws) := by
  cases c with
  | same =>
    have hsame : vs = ws := by
      have hid : vs.mapM (fun v => some v) = some ws := hvalues
      rw [show (fun v : Value α => some v) = pure from rfl, List.mapM_pure] at hid
      simpa using hid
    rw [← hsame]
    exact he
  | message model =>
    simp only [Crossing.sequence, Expr.eval, he, Option.bind_some, hcall model rfl]
  | timestamp | decimal =>
    simp only [Crossing.sequence, Expr.eval, he, Option.bind_some, Value.mapElements, hvalues]
    rfl

/-! ## Matching values follow each other -/

/-- Wherever an expression has the value `v`, what it crosses to has the value `w`. -/
def Crosses (s : Settings) (g : ServiceGraph) (foreign : Foreign α) (d : Direction)
    (t : DomainType) (repeats nullable : Bool) (v w : Value α) (depth : Nat) : Prop :=
  ∀ item bound e,
    Expr.eval ⟨foreign, callAt s g foreign d depth, item⟩ bound e = some v →
    Expr.eval ⟨foreign, callAt s g foreign d depth, item⟩ bound
      (crossing s.naming d t repeats nullable e) = some w

/-- The type names no model, or one with a message. -/
def Known (g : ServiceGraph) (t : DomainType) : Prop :=
  ∀ model, t = .named model → model ∈ g.messages.names

theorem ofType_eq_message {t : DomainType} {model : String} :
    Crossing.ofType t = .message model ↔ t = .named model := by
  cases t <;> simp [Crossing.ofType]

theorem crossing_named (model : String) (e : Expr) :
    crossing n d (.named model) false false e = .call (function n d false model) e := by
  cases d <;> rfl

theorem crosses_elements (hg : Discovers r s.naming g) {t : DomainType} (ht : Known g t)
    (ps : List (Value α × Value α)) {enough : Nat}
    (hps : ∀ depth ≥ enough, ∀ p ∈ ps,
      Crosses s g foreign d t false false (d.source.pick p.1 p.2) (d.target.pick p.1 p.2) depth) :
    ∀ depth > enough, Crosses s g foreign d t true false
      (.sequence (ps.map fun p => d.source.pick p.1 p.2))
      (.sequence (ps.map fun p => d.target.pick p.1 p.2)) depth := by
  intro depth hdepth item bound e he
  obtain ⟨inner, rfl⟩ : ∃ inner, depth = inner + 1 := ⟨depth - 1, by omega⟩
  refine eval_sequence he (mapM_map_eq_some ?_) ?_
  · intro p hp
    exact hps (inner + 1) (by omega) p hp item _ .bound rfl
  · -- A list function calls the one for a single value, one level below.
    intro model hmodel
    obtain rfl := ofType_eq_message.mp hmodel
    obtain ⟨m, hm, rfl⟩ := List.mem_map.mp (ht model rfl)
    have hcalls : ∀ p ∈ ps, callAt s g foreign d inner (function s.naming d false m.name)
        (d.source.pick p.1 p.2) = some (d.target.pick p.1 p.2) := by
      intro p hp
      have hp := hps inner (by omega) p hp [] (some (d.source.pick p.1 p.2)) .bound rfl
      rwa [crossing_named] at hp
    simp only [callAt_list hg hm, Value.mapElements, mapM_map_eq_some hcalls]
    rfl

theorem crosses_record (hg : Discovers r s.naming g) {m : Message} (hm : m ∈ g.messages.toList)
    (hidents : (m.fields.map d.source.ident).Nodup) {a b : Message.Field → Value α}
    (hfields : ∀ f ∈ m.fields,
      Crosses s g foreign d f.elementType f.repeats f.nullable (a f) (b f) depth) :
    Crosses s g foreign d (.named m.name) false false (m.valueOf d.source a)
      (m.valueOf d.target b) (depth + 1) := by
  intro item bound e he
  have happly : ((Module.ofMessage s m).conversion d).apply foreign (callAt s g foreign d depth)
      (m.valueOf d.source a) = some (m.valueOf d.target b) := by
    apply conversion_apply
    intro f hf
    rw [expr_eq]
    exact hfields f hf _ none _ (lookup_map_of_mem hidents hf)
  rw [crossing_named]
  simp only [Expr.eval, he, Option.bind_some, callAt_single hg hm, happly]

/-- An absent sequence and an empty one on the wire. -/
theorem crosses_noElements {t : DomainType}
    (hempty : Crosses s g foreign d t true false (.sequence []) (.sequence []) depth) :
    Crosses s g foreign d t true true (d.source.pick .absent (.sequence []))
      (d.target.pick .absent (.sequence [])) depth := by
  intro item bound e he
  cases d with
  | toWire =>
    apply hempty item bound (.orDefault e)
    have he : e.eval _ bound = some .absent := he
    rw [Expr.eval, he]
    rfl
  | toDomain =>
    have he : e.eval _ bound = some (.sequence []) := he
    unfold crossing
    simp only
    split_ifs with hsame
    · rw [Expr.eval, he]
      rfl
    · rw [Expr.eval, he]
      rfl

theorem crosses_someElements {t : DomainType} {vs ws : List (Value α)} (hvs : vs ≠ [])
    (hws : ws ≠ []) (h : Crosses s g foreign d t true false
      (d.source.pick (.sequence vs) (.sequence ws))
      (d.target.pick (.sequence vs) (.sequence ws)) depth) :
    Crosses s g foreign d t true true (d.source.pick (.present (.sequence vs)) (.sequence ws))
      (d.target.pick (.present (.sequence vs)) (.sequence ws)) depth := by
  intro item bound e he
  cases d with
  | toWire =>
    apply h item bound (.orDefault e)
    have he : e.eval _ bound = some (.present (.sequence vs)) := he
    rw [Expr.eval, he]
    rfl
  | toDomain =>
    have he : e.eval _ bound = some (.sequence ws) := he
    obtain ⟨w, rest, rfl⟩ := List.exists_cons_of_ne_nil hws
    have hsequence := h item bound e he
    unfold crossing at hsequence ⊢
    simp only at hsequence ⊢
    split_ifs with hsame
    · rw [hsame] at hsequence
      have hsequence : e.eval _ bound = some (.sequence vs) := hsequence
      rw [Expr.eval, hsequence]
      obtain ⟨v, vs, rfl⟩ := List.exists_cons_of_ne_nil hvs
      rfl
    · rw [Expr.eval, he]
      simp only [Option.bind_some, Value.unlessEmpty, hsequence]
      rfl

theorem Matches.crosses (hg : Discovers r s.naming g)
    (hidents : ∀ m ∈ g.messages.toList, (m.fields.map d.source.ident).Nodup)
    {t : DomainType} {repeats nullable : Bool} {v w : Value α}
    (h : Matches g t repeats nullable v w) (ht : Known g t) : ∃ enough, ∀ depth ≥ enough,
      Crosses s g foreign d t repeats nullable (d.source.pick v w) (d.target.pick v w) depth := by
  induction h with
  | @leaf t a hsame =>
    refine ⟨0, ?_⟩
    intro depth _ item bound e he
    unfold crossing
    rw [hsame]
    cases d <;> exact he
  | @record m a b hm hfields ih =>
    obtain ⟨enough, henough⟩ := exists_uniform fun f hf => ih f hf fun model hmodel =>
      hg.mem_names_of_named hm hf hmodel
    refine ⟨enough + 1, ?_⟩
    intro depth hdepth
    obtain ⟨inner, rfl⟩ : ∃ inner, depth = inner + 1 := ⟨depth - 1, by omega⟩
    have hrecord := crosses_record hg hm (hidents m hm) (henough inner (by omega))
    cases d <;> exact hrecord
  | absent =>
    refine ⟨0, ?_⟩
    intro depth _ item bound e he
    cases d <;> exact eval_option_absent he
  | present _ ih =>
    obtain ⟨enough, henough⟩ := ih ht
    refine ⟨enough, ?_⟩
    intro depth hdepth item bound e he
    have hvalue := henough depth hdepth item (some _) .bound rfl
    cases d <;> exact eval_option_present he hvalue
  | elements _ ih =>
    obtain ⟨enough, henough⟩ := exists_uniform fun p hp => ih p hp ht
    have helements := crosses_elements hg ht _ henough
    refine ⟨enough + 1, ?_⟩
    intro depth hdepth
    cases d <;> exact helements depth hdepth
  | noElements =>
    have hempty : ∀ depth > 0,
        Crosses s g foreign d _ true false (.sequence []) (.sequence []) depth :=
      crosses_elements hg ht [] (by simp)
    exact ⟨1, fun depth hdepth => crosses_noElements (hempty depth hdepth)⟩
  | someElements hps _ ih =>
    obtain ⟨enough, henough⟩ := exists_uniform fun p hp => ih p hp ht
    have helements := crosses_elements hg ht _ henough
    refine ⟨enough + 1, ?_⟩
    intro depth hdepth
    apply crosses_someElements (by simpa using hps) (by simpa using hps)
    cases d <;> exact helements depth hdepth

/-! ## Identifiers on the wire -/

theorem hash_not_mem_wireField {n : Naming} (hhash : '#' ∉ n.timestampPrefix.toList)
    (field : String) (isTimestamp : Bool) : '#' ∉ (n.wireField field isTimestamp).toList := by
  have hsnake := (Text.isNamed_snakeCase field).hash_not_mem
  cases isTimestamp with
  | false => exact hsnake
  | true => simpa [Naming.wireField] using ⟨hhash, hsnake⟩

theorem nodup_wireIdents {n : Naming} (hhash : '#' ∉ n.timestampPrefix.toList) {m : Model}
    {message : Message} (h : Message.ofModel n m = .ok message) :
    (message.fields.map Side.wire.ident).Nodup := by
  obtain ⟨hm, hdistinct, -⟩ := ofModel_eq_ok.mp h
  have hidents : message.fields.map Side.wire.ident =
      (m.fields.map (·.wireName n)).map rawIdent := by
    rw [← hm.wireNames_eq, List.map_map]
    rfl
  have hclean : ∀ name ∈ m.fields.map (·.wireName n), '#' ∉ name.toList := by
    intro name hname
    obtain ⟨f, -, rfl⟩ := List.mem_map.mp hname
    exact hash_not_mem_wireField hhash _ _
  rw [hidents]
  exact hdistinct.map_on fun a ha b hb heq => rawIdent_inj (hclean a ha) (hclean b hb) heq

/-! ## Round trips -/

/-- Two results of one conversion are the same. -/
theorem Converter.Converts.unique {m : Message} {v w w' : Value α}
    (h : Converts s g foreign d m v w) (h' : Converts s g foreign d m v w') : w = w' := by
  obtain ⟨k, hk⟩ := h
  obtain ⟨l, hl⟩ := h'
  have heq := (hk (max k l) (by omega)).symm.trans (hl (max k l) (by omega))
  exact Option.some.inj heq

theorem Matches.converts (hg : Discovers r s.naming g)
    (hidents : ∀ m ∈ g.messages.toList, (m.fields.map d.source.ident).Nodup) {m : Message}
    (hm : m ∈ g.messages.toList) {v w : Value α} (h : Matches g (.named m.name) false false v w) :
    Converts s g foreign d m (d.source.pick v w) (d.target.pick v w) := by
  have hknown : Known g (.named m.name) := by
    rintro model ⟨⟩
    exact List.mem_map_of_mem hm
  obtain ⟨enough, henough⟩ := h.crosses hg hidents hknown
  refine ⟨enough, ?_⟩
  intro depth hdepth
  have hcall := henough depth hdepth [] (some (d.source.pick v w)) .bound rfl
  rwa [crossing_named] at hcall

/-- An exact value of the domain comes back from the wire as it was, and so does one of the wire
from the domain. A prefix with a `#`, which no accepted settings have, could make two wire fields
one identifier. -/
theorem converters_round_trip (hg : discover r s.naming = .ok g)
    (hhash : '#' ∉ s.naming.timestampPrefix.toList)
    (hdomain : ∀ m ∈ g.messages.toList,
      (m.fields.map fun f => Naming.domainField f.name).Nodup)
    (foreign : Foreign α) {m : Message} (hm : m ∈ g.messages.toList) :
    (∀ v, Exact g .domain (.named m.name) false false v → ∃ w,
      Converts s g foreign .toWire m v w ∧ Converts s g foreign .toDomain m w v) ∧
    (∀ w, Exact g .wire (.named m.name) false false w → ∃ v,
      Converts s g foreign .toDomain m w v ∧ Converts s g foreign .toWire m v w) := by
  have hd := discovers_of_ok hg
  have hwire : ∀ m ∈ g.messages.toList, (m.fields.map Side.wire.ident).Nodup := by
    intro m hm
    obtain ⟨k, -, hok⟩ := hd.built.ofModel m hm
    exact nodup_wireIdents hhash hok
  constructor
  · intro v hv
    obtain ⟨w, hmatch⟩ := hv.exists_matches
    refine ⟨w, ?_, ?_⟩
    · exact hmatch.converts (d := .toWire) hd hdomain hm
    · exact hmatch.converts (d := .toDomain) hd hwire hm
  · intro w hw
    obtain ⟨v, hmatch⟩ := hw.exists_matches
    refine ⟨v, ?_, ?_⟩
    · exact hmatch.converts (d := .toDomain) hd hwire hm
    · exact hmatch.converts (d := .toWire) hd hdomain hm

/-- A ping whose pong has neither a ping nor a pong. -/
def pingOnce : Value Nat :=
  pingMessage.valueOf .domain fun _ =>
    .present (pongMessage.valueOf .domain fun f => if f.repeats then .sequence [] else .absent)

theorem converters_round_trip_pingOnce : ∃ g, discover (pingPong ["Echo"]) {} = .ok g ∧
    ∃ w, Converts {} g ⟨some, some, some, some⟩ .toWire pingMessage pingOnce w ∧
      Converts {} g ⟨some, some, some, some⟩ .toDomain pingMessage w pingOnce := by
  obtain ⟨g, hg, -, hmessages⟩ := exists_messages_pingPong
  have hping : pingMessage ∈ g.messages.toList := by simp [hmessages]
  have hpong : pongMessage ∈ g.messages.toList := by simp [hmessages]
  have hpongs : ∀ f ∈ pongMessage.fields, Exact g .domain f.elementType f.repeats f.nullable
      (if f.repeats then Value.sequence [] else .absent : Value Nat) := by
    simp only [pongMessage, List.forall_mem_cons]
    exact ⟨.elements (by simp), .absent, by simp⟩
  have hexact : Exact g .domain (.named "Ping") false false pingOnce := by
    apply Exact.record hping
    simp only [pingMessage, List.forall_mem_cons]
    exact ⟨.present (.record hpong hpongs), by simp⟩
  have hidents : ∀ m ∈ g.messages.toList,
      (m.fields.map fun f => Naming.domainField f.name).Nodup := by
    rw [hmessages]
    decide +kernel
  obtain ⟨hforth, -⟩ := converters_round_trip (s := {}) hg (by decide) hidents
    (⟨some, some, some, some⟩ : Foreign Nat) hping
  exact ⟨g, hg, hforth pingOnce hexact⟩

/-! ## A prefix that is not accepted -/

/-- The prefix makes a raw identifier of a name that is none. -/
def rawPrefixed : Settings := { naming := { timestampPrefix := "r#t" } }

/-- On the wire both fields have the identifier `r#type`. -/
def ticket : Model where
  name := "Ticket"
  fields := [⟨"ype", .timestamp, true⟩, ⟨"type", .string, false⟩]

def ticketMessage : Message where
  name := "Ticket"
  wireName := "GrpcTicket"
  fields := [{
    name := "ype", wireName := "r#type", domainType := .timestamp
    wireType := .scalar .int64, cardinality := .scalar, ordinal := 1
    isNested := false, nullable := true }, {
    name := "type", wireName := "type", domainType := .string
    wireType := .scalar .string, cardinality := .scalar, ordinal := 2
    isNested := false, nullable := false }]

/-- A ticket with a type and no time. -/
def typedTicket : Value Nat :=
  ticketMessage.valueOf .domain fun f => if f.nullable then .absent else .leaf 7

theorem exists_messages_ticket : ∃ g,
    discover (echoing ticket "Desk" "DeskApi") rawPrefixed.naming = .ok g ∧
      g.messages.toList = [ticketMessage] := by
  have hmessage : Message.ofModel rawPrefixed.naming ticket = .ok ticketMessage := by
    decide +kernel
  obtain ⟨g, hg, hmessages, -⟩ := exists_discover_echoing_of_suffix rfl ticket "Desk" "DeskApi"
    (by decide) (by decide +kernel) (by decide) hmessage (by decide) (by decide +kernel)
  exact ⟨g, hg, hmessages⟩

theorem toDomain_ticketMessage :
    ((Module.ofMessage rawPrefixed ticketMessage).conversion .toDomain).fields =
      [("ype", .mapClosure (.field "r#type") (.ofMillis .bound)), ("r#type", .field "r#type")] := by
  decide +kernel

theorem typedTicket_eq : typedTicket = .record [("ype", .absent), ("r#type", .leaf 7)] := by
  have hype : Naming.domainField "ype" = "ype" := by decide +kernel
  have htype : Naming.domainField "type" = "r#type" := by decide +kernel
  simp [typedTicket, Message.valueOf, ticketMessage, Side.ident, hype, htype]

/-- Both fields of a ticket are read from the one field on the wire, which cannot be absent for the
time and hold the type. -/
theorem converters_lose_typedTicket : ∃ g,
    discover (echoing ticket "Desk" "DeskApi") rawPrefixed.naming = .ok g ∧
    (∀ m ∈ g.messages.toList, (m.fields.map fun f => Naming.domainField f.name).Nodup) ∧
    ticketMessage ∈ g.messages.toList ∧
    Exact g .domain (.named ticketMessage.name) false false typedTicket ∧
    ∀ foreign, ¬ ∃ w, Converts rawPrefixed g foreign .toWire ticketMessage typedTicket w ∧
      Converts rawPrefixed g foreign .toDomain ticketMessage w typedTicket := by
  obtain ⟨g, hg, hmessages⟩ := exists_messages_ticket
  have hticket : ticketMessage ∈ g.messages.toList := by simp [hmessages]
  refine ⟨g, hg, ?_, hticket, ?_, ?_⟩
  · rw [hmessages]
    decide +kernel
  · apply Exact.record hticket
    simp only [ticketMessage, List.forall_mem_cons]
    exact ⟨.absent, .leaf rfl, by simp⟩
  · rintro foreign ⟨w, -, enough, hback⟩
    have hread := hback (enough + 1) (by omega)
    rw [callAt_single (discovers_of_ok hg) hticket, Conversion.apply.eq_def,
      toDomain_ticketMessage, typedTicket_eq] at hread
    cases w with
    | record item =>
      cases hfield : item.lookup "r#type" with
      | none => simp [Expr.eval, hfield] at hread
      | some v =>
        have hfields : Value.mapPresent foreign.ofMillis v = some .absent ∧ v = .leaf 7 := by
          simpa [Expr.eval, hfield, Option.bind_eq_some_iff] using hread
        obtain ⟨htime, rfl⟩ := hfields
        simp [Value.mapPresent] at htime
    | _ => simp at hread

end RpcScaffold
