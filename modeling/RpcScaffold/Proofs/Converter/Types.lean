import RpcScaffold.Proofs.Converter.Fields

/-!
# The types of field expressions

The schema decides whether a field of the wire may be absent, the message decides it for the domain,
and the converter once more for each of its expressions. Typing rules for the expressions show that
the three agree.
-/

namespace RpcScaffold

/-! ## Types of generated code -/

inductive CodeType
  | int8
  | int16
  | int32
  | int64
  | uint8
  | uint16
  | uint32
  | uint64
  | bool
  | float
  | double
  | decimal
  | string
  | char
  | dateTime
  | model (name : String)
  | message (name : String)
  | option (t : CodeType)
  | vec (t : CodeType)
  | map (key value : CodeType)
  deriving Repr, DecidableEq

namespace CodeType

def ofDomain : DomainType → CodeType
  | .int8 => int8
  | .int16 => int16
  | .int32 => int32
  | .int64 => int64
  | .uint8 => uint8
  | .uint16 => uint16
  | .uint32 => uint32
  | .uint64 => uint64
  | .bool => bool
  | .float => float
  | .double => double
  | .decimal => decimal
  | .string => string
  | .char => char
  | .timestamp => dateTime
  | .bytes => vec uint8
  | .array e | .list e => vec (ofDomain e)
  | .map k v => map (ofDomain k) (ofDomain v)
  | .named m => model m

def ofWire : WireType → CodeType
  | .scalar .int32 => int32
  | .scalar .int64 => int64
  | .scalar .uint32 => uint32
  | .scalar .uint64 => uint64
  | .scalar .bool => bool
  | .scalar .float => float
  | .scalar .double => double
  | .scalar .string => string
  | .scalar .bytes => vec uint8
  | .message name => message name

/-- The type has a default value. The structures of the models need not have one. -/
def hasDefault : CodeType → Bool
  | model _ => false
  | _ => true

/-- `Option` of the type if it may be absent. -/
def optional (absent : Bool) (t : CodeType) : CodeType := if absent then option t else t

end CodeType

/-- The type of the field in the structure of that side. On the wire it is read off the line of the
schema, and a single message may always be absent. -/
def Side.type (f : Message.Field) : Side → CodeType
  | domain => .optional f.nullable (.ofDomain f.domainType)
  | wire =>
    if f.schemaType = "repeated " ++ f.wireType.text then .vec (.ofWire f.wireType)
    else if f.schemaType = "optional " ++ f.wireType.text ∨ f.isNested then
      .option (.ofWire f.wireType)
    else .ofWire f.wireType

namespace Converter

/-! ## Typing rules -/

/-- What an expression may refer to: fields of the value that is converted, and functions by their
argument and result. -/
structure Scope where
  item : String → Option CodeType
  function : Function → Option (CodeType × CodeType)

/-- The rules of the methods that field expressions use. `v` is the type of the bound variable. -/
inductive HasType (c : Scope) : Option CodeType → Expr → CodeType → Prop
  | field {v name t} (h : c.item name = some t) : HasType c v (.field name) t
  | bound {t} : HasType c (some t) .bound t
  | call {v f e s t} (hf : c.function f = some (s, t)) (h : HasType c v e s) :
    HasType c v (.call f e) t
  | toMillis {v e} (h : HasType c v e .dateTime) : HasType c v (.toMillis e) .int64
  | ofMillis {v e} (h : HasType c v e .int64) : HasType c v (.ofMillis e) .dateTime
  | toDouble {v e} (h : HasType c v e .decimal) : HasType c v (.toDouble e) .double
  | ofDouble {v e} (h : HasType c v e .double) : HasType c v (.ofDouble e) .decimal
  | orDefault {v e t} (ht : t.hasDefault = true) (h : HasType c v e (.option t)) :
    HasType c v (.orDefault e) t
  | mapCall {v e f s t} (hf : c.function f = some (s, t)) (h : HasType c v e (.option s)) :
    HasType c v (.mapCall e f) (.option t)
  | mapClosure {v e body s t} (h : HasType c v e (.option s)) (hbody : HasType c (some s) body t) :
    HasType c v (.mapClosure e body) (.option t)
  | mapElements {v e body s t} (h : HasType c v e (.vec s)) (hbody : HasType c (some s) body t) :
    HasType c v (.mapElements e body) (.vec t)
  | unlessEmpty {v e t} (h : HasType c v e (.vec t)) :
    HasType c v (.unlessEmpty e) (.option (.vec t))
  | unlessEmptyThen {v e body s t} (h : HasType c v e (.vec s)) (hbody : HasType c v body t) :
    HasType c v (.unlessEmptyThen e body) (.option t)

theorem HasType.unique {c : Scope} {v : Option CodeType} {e : Expr} {s t : CodeType}
    (hs : HasType c v e s) (ht : HasType c v e t) : s = t := by
  induction hs generalizing t with
  | field h =>
    cases ht with
    | field h' => exact Option.some.inj (h.symm.trans h')
  | bound =>
    cases ht
    rfl
  | call hf =>
    cases ht with
    | call hf' => exact (Prod.mk.inj (Option.some.inj (hf.symm.trans hf'))).2
  | mapCall hf =>
    cases ht with
    | mapCall hf' => rw [(Prod.mk.inj (Option.some.inj (hf.symm.trans hf'))).2]
  | toMillis | ofMillis | toDouble | ofDouble =>
    cases ht
    rfl
  | orDefault _ _ ih =>
    cases ht with
    | orDefault _ h' => exact CodeType.option.inj (ih h')
  | mapClosure _ _ ih ihbody =>
    cases ht with
    | mapClosure h' hbody' =>
      obtain rfl := CodeType.option.inj (ih h')
      rw [ihbody hbody']
  | mapElements _ _ ih ihbody =>
    cases ht with
    | mapElements h' hbody' =>
      obtain rfl := CodeType.vec.inj (ih h')
      rw [ihbody hbody']
  | unlessEmpty _ ih =>
    cases ht with
    | unlessEmpty h' => rw [ih h']
  | unlessEmptyThen _ _ _ ihbody =>
    cases ht with
    | unlessEmptyThen _ hbody' => rw [ihbody hbody']

/-! ## Crossing -/

/-- The type of a single value. -/
def elementType (n : Naming) : Side → DomainType → CodeType
  | .wire, .named model => .message (n.wireMessage model)
  | .wire, .timestamp => .int64
  | .wire, .decimal => .double
  | _, t => .ofDomain t

/-- The type of a field with elements of type `t`. On the wire a sequence is never absent. -/
def fieldType (n : Naming) (side : Side) (t : DomainType) (repeats nullable : Bool) : CodeType :=
  match side, repeats with
  | _, false => .optional nullable (elementType n side t)
  | .domain, true => .optional nullable (.vec (elementType n side t))
  | .wire, true => .vec (elementType n side t)

/-- The argument and the result of a converter function. -/
def functionType (n : Naming) (d : Direction) (list : Bool) (model : String) :
    CodeType × CodeType :=
  let (s, t) := match d with
    | .toWire => (.model model, .message (n.wireMessage model))
    | .toDomain => (.message (n.wireMessage model), .model model)
  if list then (.vec s, .vec t) else (s, t)

/-- The functions between the elements of type `t` are in scope. -/
def Scope.Calls (c : Scope) (n : Naming) (d : Direction) (t : DomainType) : Prop :=
  ∀ model, t = .named model → ∀ list,
    c.function (Converter.function n d list model) = some (functionType n d list model)

variable {c : Scope} {n : Naming} {d : Direction} {t : DomainType} {v : Option CodeType} {e : Expr}

theorem value_type (hc : c.Calls n d t) (he : HasType c v e (elementType n d.source t)) :
    HasType c v ((Crossing.ofType t).value n d e) (elementType n d.target t) := by
  cases t with
  | timestamp =>
    cases d
    · exact .toMillis he
    · exact .ofMillis he
  | decimal =>
    cases d
    · exact .toDouble he
    · exact .ofDouble he
  | named model =>
    have hfunction := hc model rfl false
    cases d <;> exact .call hfunction he
  | _ => cases d <;> exact he

theorem option_type (hc : c.Calls n d t) (he : HasType c v e (.option (elementType n d.source t))) :
    HasType c v ((Crossing.ofType t).option n d e) (.option (elementType n d.target t)) := by
  have hclosure : HasType c v (.mapClosure e ((Crossing.ofType t).value n d .bound))
      (.option (elementType n d.target t)) := .mapClosure he (value_type hc .bound)
  cases t with
  | timestamp | decimal => exact hclosure
  | named model =>
    have hfunction := hc model rfl false
    cases d <;> exact .mapCall hfunction he
  | _ => cases d <;> exact he

theorem sequence_type (hc : c.Calls n d t) (he : HasType c v e (.vec (elementType n d.source t))) :
    HasType c v ((Crossing.ofType t).sequence n d e) (.vec (elementType n d.target t)) := by
  have helements : HasType c v (.mapElements e ((Crossing.ofType t).value n d .bound))
      (.vec (elementType n d.target t)) := .mapElements he (value_type hc .bound)
  cases t with
  | timestamp | decimal => exact helements
  | named model =>
    have hfunction := hc model rfl true
    cases d <;> exact .call hfunction he
  | _ => cases d <;> exact he

theorem elementType_of_same (h : Crossing.ofType t = .same) :
    elementType n .wire t = elementType n .domain t := by
  cases t with
  | timestamp | decimal | named => cases h
  | _ => rfl

theorem crossing_type {repeats nullable : Bool} (hc : c.Calls n d t)
    (he : HasType c v e (fieldType n d.source t repeats nullable)) :
    HasType c v (crossing n d t repeats nullable e) (fieldType n d.target t repeats nullable) := by
  cases repeats with
  | false =>
    cases nullable with
    | false => cases d <;> exact value_type hc he
    | true => cases d <;> exact option_type hc he
  | true =>
    cases nullable with
    | false => cases d <;> exact sequence_type hc he
    | true =>
      cases d with
      | toWire => exact sequence_type hc (.orDefault rfl he)
      | toDomain =>
        unfold crossing
        simp only
        split_ifs with hsame
        · have htype := elementType_of_same (n := n) hsame
          have hsequence : HasType c v e (.vec (elementType n .domain t)) := htype ▸ he
          exact .unlessEmpty hsequence
        · exact .unlessEmptyThen he (sequence_type hc he)

end Converter

/-! ## Fields -/

namespace Message.Field

theorem schemaType_eq_repeated_iff {f : Message.Field} :
    f.schemaType = "repeated " ++ f.wireType.text ↔ f.repeats = true := by
  have hlonger : f.wireType.text ≠ "repeated " ++ f.wireType.text := by
    intro h
    simpa using congrArg String.length h
  unfold schemaType repeats
  split_ifs with hrepeated hpresence
  · simp [hrepeated]
  · have hword : "optional " ++ f.wireType.text ≠ "repeated " ++ f.wireType.text := by
      rw [Ne, String.append_left_inj]
      decide
    simp [hrepeated, hword]
  · simp [hrepeated, hlonger]

theorem schemaType_eq_optional_iff {f : Message.Field} :
    f.schemaType = "optional " ++ f.wireType.text ↔ f.hasPresence = true := by
  have hlonger : f.wireType.text ≠ "optional " ++ f.wireType.text := by
    intro h
    simpa using congrArg String.length h
  unfold schemaType
  split_ifs with hrepeated hpresence
  · have hword : "repeated " ++ f.wireType.text ≠ "optional " ++ f.wireType.text := by
      rw [Ne, String.append_left_inj]
      decide
    simp [hword, hasPresence, hrepeated]
  · simp [hpresence]
  · simp [hlonger, hpresence]

theorem Mapped.ofWire_eq {n : Naming} {f : Message.Field} (h : f.Mapped n) :
    CodeType.ofWire f.wireType = Converter.elementType n .wire f.elementType := by
  rcases h.element with ⟨w, hw, htype⟩ | ⟨hbytes, htype⟩
  · rw [htype]
    cases helement : f.elementType <;> rw [helement] at hw <;> cases hw <;> rfl
  · rw [htype]
    cases helement : f.elementType <;> rw [helement] at hbytes <;> cases hbytes <;> rfl

theorem Mapped.type_eq {n : Naming} {f : Message.Field} (h : f.Mapped n) (side : Side) :
    side.type f = Converter.fieldType n side f.elementType f.repeats f.nullable := by
  cases side with
  | domain =>
    cases hrepeats : f.repeats with
    | false =>
      rw [Side.type, h.single hrepeats]
      rfl
    | true =>
      have helement := h.sequence hrepeats
      have hvec : CodeType.ofDomain f.domainType = .vec (.ofDomain f.elementType) := by
        cases hdomain : f.domainType <;> rw [hdomain] at helement <;> cases helement <;> rfl
      rw [Side.type, hvec]
      rfl
  | wire =>
    have habsent : f.repeats = false →
        ((f.hasPresence = true ∨ f.isNested = true) ↔ f.nullable = true) := by
      intro hrepeats
      have hoptional := h.optional hrepeats
      unfold hasPresence
      have hcard : f.cardinality ≠ .repeated := by simpa [repeats] using hrepeats
      cases hnested : f.isNested with
      | false => simp [hcard]
      | true => simp [hoptional hnested]
    rw [Side.type, h.ofWire_eq]
    simp only [schemaType_eq_repeated_iff, schemaType_eq_optional_iff]
    cases hrepeats : f.repeats with
    | false =>
      simp only [Bool.false_eq_true, if_false, habsent hrepeats]
      rfl
    | true => rfl

end Message.Field

namespace Converter

/-- What the expression of a field may refer to. -/
structure Scope.Fits (c : Scope) (n : Naming) (d : Direction) (f : Message.Field) : Prop where
  item : c.item (d.source.ident f) = some (d.source.type f)
  calls : c.Calls n d f.elementType

/-- The scope with the functions of one field. -/
def Scope.ofField (n : Naming) (d : Direction) (f : Message.Field) : Scope where
  item _ := some (d.source.type f)
  function g := f.elementType.model?.map fun model =>
    functionType n d (g = Converter.function n d true model) model

theorem Scope.exists_fits (n : Naming) (d : Direction) (f : Message.Field) :
    ∃ c : Scope, c.Fits n d f := by
  refine ⟨Scope.ofField n d f, rfl, ?_⟩
  intro model hmodel list
  cases list with
  | false =>
    have hne : Converter.function n d false model ≠ Converter.function n d true model := by
      intro h
      exact function_name_ne n d model (congrArg Function.name h).symm
    simp [Scope.ofField, hmodel, DomainType.model?, hne]
  | true => simp [Scope.ofField, hmodel, DomainType.model?]

/-- From the type of a field on one side, the expression gets that of the other side. -/
theorem hasType_expr_iff {m : Model} {message : Message} {f : Message.Field}
    (h : Message.ofModel n m = .ok message) (hf : f ∈ message.fields) (hc : c.Fits n d f)
    {t : CodeType} : HasType c none (d.expr n f) t ↔ t = d.target.type f := by
  have hmapped := mapped_of_ofModel h hf
  have hitem : HasType c none (.field (d.source.ident f))
      (fieldType n d.source f.elementType f.repeats f.nullable) :=
    .field (by rw [hc.item, hmapped.type_eq])
  have hexpr : HasType c none (d.expr n f) (d.target.type f) := by
    rw [expr_eq, hmapped.type_eq]
    exact crossing_type hc.calls hitem
  constructor
  · intro ht
    exact ht.unique hexpr
  · rintro rfl
    exact hexpr

/-- A message whose members may be absent. -/
def teamMessage : Message where
  name := "Team"
  wireName := "GrpcTeam"
  fields := [{
    name := "members", wireName := "members", domainType := .list (.named "Person")
    wireType := .message "GrpcPerson", cardinality := .repeated, ordinal := 1
    isNested := true, nullable := true }]

theorem ofModel_team :
    Message.ofModel {} { name := "Team", fields := [⟨"members", .list (.named "Person"), true⟩] } =
      .ok teamMessage := by
  decide +kernel

theorem hasType_expr_iff_team : ∃ f ∈ teamMessage.fields, ∃ c : Scope, c.Fits {} .toDomain f ∧
    HasType c none (Direction.toDomain.expr {} f) (.option (.vec (.model "Person"))) := by
  obtain ⟨c, hc⟩ := Scope.exists_fits {} .toDomain (teamMessage.fields.head (by decide))
  have hf : teamMessage.fields.head (by decide) ∈ teamMessage.fields := List.head_mem _
  exact ⟨_, hf, c, hc, (hasType_expr_iff ofModel_team hf hc).mpr rfl⟩

end Converter

end RpcScaffold
