import RpcScaffold.Proofs.Converter.Values
import RpcScaffold.Proofs.Naming.Identifiers
import RpcScaffold.Proofs.Schema.Decoding

/-!
# Which identifiers of the output are legal

Discovery checks the names of models and the settings. All other declared names reach the output
through a change of case and an escape, or as they are. So whether the output is legal depends on
these names, and on nothing else.
-/

namespace RpcScaffold

open Text

/-! ## The names of the output -/

/-- The type of a field without its modifier. -/
def Schema.Field.typeName (f : Schema.Field) : String := (Schema.wordsOf f.type.toList).getLastD ""

def Schema.Block.names : Schema.Block → List String
  | .service name rpcs => name :: rpcs.flatMap fun r => [r.name, r.input, r.output]
  | .message name fields => name :: fields.flatMap fun f => [f.name, f.typeName]

def Schema.names (s : Schema) : List String := s.blocks.flatMap (·.names)

namespace Converter

/-- The fields that the function reads and sets. -/
def Conversion.fieldNames (c : Conversion) : List String :=
  c.fields.flatMap fun f => f.1 :: f.2.accessed

end Converter

/-- What is written for the graph holds legal names only. -/
structure ServiceGraph.Legal (g : ServiceGraph) (s : Settings) : Prop where
  schema : ∃ schema, (Schema.ofGraph s g {}).1 = .ok schema ∧
    ∀ name ∈ (Schema.ofText schema.render).names, isIdentifier name = true
  converters : ∀ m ∈ g.messages.toList, ∀ d,
    ∀ name ∈ ((Converter.Module.ofMessage s m).conversion d).fieldNames, IsCodeName name
  adapters : ∀ record ∈ g.records,
    ∀ name ∈ (Adapter.ofRecord s record).interfaceName ::
      (Adapter.ofRecord s record).methods.map (·.ident), IsCodeName name
  proxies : ∀ record ∈ g.records,
    ∀ name ∈ (Proxy.ofRecord s record).methods.map (·.ident), IsCodeName name

/-- The declared names of the graph give legal names. -/
structure ServiceGraph.Nameable (g : ServiceGraph) : Prop where
  services : ∀ record ∈ g.records, ∀ c ∈ (upperCamel record.shortName).toList, isIdentRest c = true
  interfaces : ∀ record ∈ g.records, IsCodeName record.interfaceName
  methods : ∀ record ∈ g.records, ∀ c ∈ record.methods,
    isIdentifier (upperCamel c.name) = true ∧ IsMemberName (snakeCase c.name)
  fields : ∀ m ∈ g.messages.toList, ∀ f ∈ m.fields,
    IsMemberName (snakeCase f.name) ∧ f.wireName ∉ pathWords

/-- Both cases of the name are identifiers, and the escape serves it. -/
def IsPlainName (name : String) : Prop :=
  (∀ c ∈ name.toList, isAscii c = true) ∧ startsWithLetter name = true ∧
    snakeCase name ∉ pathWords

instance (name : String) : Decidable (IsPlainName name) :=
  decidable_of_iff (name.toList.all isAscii = true ∧ startsWithLetter name = true ∧
    snakeCase name ∉ pathWords) (and_congr_left' List.all_eq_true)

/-- A condition on the declarations alone. -/
structure Registry.IsPlain (r : Registry) (n : Naming) : Prop where
  services : ∀ service ∈ r.services, ∀ c ∈ service.name.toList, isAscii c = true
  interfaces : ∀ service ∈ r.services, ∀ i ∈ service.interfaces, IsCodeName i.name
  methods : ∀ service ∈ r.services, ∀ i ∈ service.interfaces, ∀ m ∈ i.methods, IsPlainName m.name
  fields : ∀ m ∈ r.models, ∀ f ∈ m.fields, IsPlainName f.name ∧ f.wireName n ∉ pathWords

/-! ## Names of the schema -/

namespace Schema

theorem typeName_eq {f : Field} {word : String} {modifier : List String} (hword : IsWord word)
    (h : IsType f.type word modifier) : f.typeName = word := by
  have hwords : wordsOf f.type.toList = modifier ++ [word] := by
    apply wordsOf_eq (by simp)
    · rcases h with ⟨rfl, -⟩ | ⟨rfl, -⟩ | ⟨rfl, -⟩
      all_goals
        simp only [List.cons_append, List.nil_append, List.forall_mem_cons, hword]
        decide
    · rcases h with ⟨rfl, htype⟩ | ⟨rfl, htype⟩ | ⟨rfl, htype⟩ <;>
        simp [htype, strip_cons, isPunctuation, join, hword.strip,
          List.intercalate_cons_cons]
  rw [Field.typeName, hwords]
  simp

variable {r : Registry} {s : Settings} {g : ServiceGraph}

theorem record_mem_items {record : ServiceRecord} (done : List String)
    {records : List ServiceRecord} :
    .record record ∈ items g done records ↔ record ∈ records := by
  conv_rhs => rw [← filterMap_record_items (g := g) done records, List.mem_filterMap]
  constructor
  · intro h
    exact ⟨_, h, rfl⟩
  · rintro ⟨i, hi, hrecord⟩
    cases i with
    | record k =>
      cases hrecord
      exact hi
    | message m => cases hrecord

theorem message_mem_items (h : Discovers r s.naming g) {m : Message} :
    .message m ∈ items g [] g.records ↔ m ∈ g.messages.toList := by
  rw [← message_items h, List.mem_filterMap]
  constructor
  · intro hm
    exact ⟨_, hm, rfl⟩
  · rintro ⟨i, hi, hmessage⟩
    cases i with
    | record k => cases hmessage
    | message m' =>
      cases hmessage
      exact hi

theorem forall_names {P : String → Prop} (h : Discovers r s.naming g) :
    (∀ name ∈ (ofItems s (items g [] g.records)).names, P name) ↔
      (∀ record ∈ g.records, ∀ name ∈ (Block.ofRecord s.naming record).names, P name) ∧
        ∀ m ∈ g.messages.toList, ∀ name ∈ (Block.ofMessage m).names, P name := by
  simp only [names, ofItems, List.mem_flatMap, List.mem_map, forall_exists_index, and_imp,
    forall_apply_eq_imp_iff₂]
  constructor
  · intro hall
    constructor
    · intro record hrecord name hname
      exact hall name (.record record) ((record_mem_items []).mpr hrecord) hname
    · intro m hm name hname
      exact hall name (.message m) ((message_mem_items h).mpr hm) hname
  · rintro ⟨hrecords, hmessages⟩ name i hi hname
    cases i with
    | record record => exact hrecords record ((record_mem_items []).mp hi) name hname
    | message m => exact hmessages m ((message_mem_items h).mp hi) name hname

end Schema

section

variable {r : Registry} {s : Settings} {g : ServiceGraph} (hs : s.Sound)
  (h : Discovers r s.naming g)

include hs

theorem isIdentifier_wireField {field : String} (hfield : isIdentifier (snakeCase field) = true)
    (isTimestamp : Bool) : isIdentifier (s.naming.wireField field isTimestamp) = true := by
  cases isTimestamp with
  | false => exact hfield
  | true =>
    change isIdentifier (s.naming.timestampPrefix ++ snakeCase field) = true
    rcases hs.timestampPrefix with hempty | hident
    · rw [hempty, String.empty_append]
      exact hfield
    · exact (isIdentifier_append hident).mpr (isIdentifier_iff.mp hfield).2

include h

/-- Models are checked, so their wire names need nothing more. -/
theorem isIdentifier_wireMessage {name : String} (hname : r.Exposes name) :
    isIdentifier (s.naming.wireMessage name) = true := by
  obtain ⟨m, hm, rfl⟩ := Registry.mem_names.mp (h.declared hname)
  have hascii := isAscii_of_isIdentifier (h.identifiers m hm)
  exact (isIdentifier_append hs.wirePrefix).mpr (isIdentRest_upperCamel hascii)

theorem isIdentifier_wireName {m : Message} (hm : m ∈ g.messages.toList) :
    isIdentifier m.wireName = true := by
  obtain ⟨k, -, hk⟩ := h.exists_model hm
  have hexposed : r.Exposes m.name := h.exposes_iff.mp (List.mem_map_of_mem hm)
  rw [hk.wireName, ← hk.name]
  exact isIdentifier_wireMessage hs h hexposed

theorem isIdentifier_wireType {m : Message} (hm : m ∈ g.messages.toList) {f : Message.Field}
    (hf : f ∈ m.fields) : isIdentifier f.wireType.text = true := by
  cases hw : f.wireType with
  | scalar k => cases k <;> decide
  | message name =>
    obtain ⟨target, htarget, rfl⟩ :=
      List.mem_map.mp (Schema.mem_wireNames_of_field h hm hf hw)
    exact isIdentifier_wireName hs h htarget

theorem names_ofRecord {record : ServiceRecord} (hrecord : record ∈ g.records) :
    (∀ name ∈ (Schema.Block.ofRecord s.naming record).names, isIdentifier name = true) ↔
      (∀ c ∈ (upperCamel record.shortName).toList, isIdentRest c = true) ∧
        ∀ c ∈ record.methods, isIdentifier (upperCamel c.name) = true := by
  have hservice : isIdentifier (s.naming.wireService record.shortName) = true ↔
      ∀ c ∈ (upperCamel record.shortName).toList, isIdentRest c = true :=
    isIdentifier_append hs.wirePrefix
  simp only [Schema.Block.ofRecord, Schema.Block.names, List.forall_mem_cons, hservice]
  apply and_congr_right
  intro _
  simp only [List.forall_mem_flatMap, List.forall_mem_map, List.forall_mem_cons]
  constructor
  · intro hnames c hc
    exact (hnames c hc).1
  · intro hrpcs c hc
    obtain ⟨hinput, houtput⟩ := h.exposes_of_contract hrecord hc
    exact ⟨hrpcs c hc, isIdentifier_wireMessage hs h hinput, isIdentifier_wireMessage hs h houtput,
      by simp⟩

theorem typeName_ofMessageField {m : Message} (hm : m ∈ g.messages.toList) {f : Message.Field}
    (hf : f ∈ m.fields) : (Schema.Field.ofMessageField f).typeName = f.wireType.text := by
  have hword := Schema.isWord_of_isNamed (isNamed_of_isIdentifier (isIdentifier_wireType hs h hm hf))
  obtain ⟨modifier, htype⟩ := Schema.exists_isType (Schema.schemaType_eq f)
  exact Schema.typeName_eq hword htype

theorem names_ofMessage {m : Message} (hm : m ∈ g.messages.toList) :
    (∀ name ∈ (Schema.Block.ofMessage m).names, isIdentifier name = true) ↔
      ∀ f ∈ m.fields, isIdentifier f.wireName = true := by
  simp only [Schema.Block.ofMessage, Schema.Block.names, List.forall_mem_cons,
    isIdentifier_wireName hs h hm, true_and, List.forall_mem_flatMap, List.forall_mem_map]
  constructor
  · intro hnames f hf
    exact (hnames f hf).1
  · intro hfields f hf
    rw [typeName_ofMessageField hs h hm hf]
    exact ⟨hfields f hf, isIdentifier_wireType hs h hm hf, by simp⟩

end

/-! ## Names of the modules -/

namespace Converter

variable {d : Direction}

/-- Both functions of a module touch the same two fields for each field of the message. -/
theorem mem_fieldNames {s : Settings} {m : Message} {name : String} :
    name ∈ ((Module.ofMessage s m).conversion d).fieldNames ↔
      ∃ f ∈ m.fields, ∃ side : Side, name = side.ident f := by
  simp only [Conversion.fieldNames, conversion_fields, List.mem_flatMap, List.mem_map,
    exists_exists_and_eq_and, List.mem_cons, mem_accessed_expr]
  apply exists_congr
  intro f
  apply and_congr_right
  intro _
  constructor
  · rintro (rfl | rfl)
    · exact ⟨_, rfl⟩
    · exact ⟨_, rfl⟩
  · rintro ⟨side, rfl⟩
    cases d <;> cases side <;> simp [Direction.source, Direction.target]

end Converter

theorem Adapter.idents_ofRecord (s : Settings) (record : ServiceRecord) :
    (Adapter.ofRecord s record).methods.map (·.ident) =
      record.methods.map fun c => Naming.methodIdent c.name := by
  simp [Adapter.ofRecord, Adapter.Method.ofContract]

theorem Proxy.idents_ofRecord (s : Settings) (record : ServiceRecord) :
    (Proxy.ofRecord s record).methods.map (·.ident) =
      record.methods.map fun c => Naming.methodIdent c.name := by
  simp [Proxy.ofRecord, Proxy.Method.ofContract]

/-! ## Legal output -/

section

variable {r : Registry} {s : Settings} {g : ServiceGraph}

theorem isIdentifier_wireName_of_field (hs : s.Sound) (h : Discovers r s.naming g) {m : Message}
    (hm : m ∈ g.messages.toList) {f : Message.Field} (hf : f ∈ m.fields)
    (hfield : IsMemberName (snakeCase f.name)) : isIdentifier f.wireName = true := by
  obtain ⟨k, -, hk⟩ := h.exists_model hm
  obtain ⟨p, -, w, -, rfl⟩ := exists_left hk.fields hf
  exact isIdentifier_wireField hs hfield.1 _

theorem isCodeName_ident_iff (hs : s.Sound) (h : Discovers r s.naming g) {m : Message}
    (hm : m ∈ g.messages.toList) {f : Message.Field} (hf : f ∈ m.fields) :
    (∀ side : Side, IsCodeName (side.ident f)) ↔
      IsMemberName (snakeCase f.name) ∧ f.wireName ∉ pathWords := by
  obtain ⟨k, -, hk⟩ := h.exists_model hm
  obtain ⟨p, -, hp⟩ := exists_left hk.fields hf
  have hnamed : IsNamed f.wireName := by
    rw [hp.wireName_eq]
    exact hs.isNamed_wireField _ _
  have hdomain := isCodeName_rawIdent (isNamed_snakeCase f.name)
  have hwire := isCodeName_rawIdent hnamed
  constructor
  · intro hall
    exact ⟨hdomain.mp (hall .domain), (hwire.mp (hall .wire)).2⟩
  · rintro ⟨hmember, hpath⟩ side
    cases side with
    | domain => exact hdomain.mpr hmember
    | wire => exact hwire.mpr ⟨isIdentifier_wireName_of_field hs h hm hf hmember, hpath⟩

theorem legal_iff (hs : s.Sound) (h : Discovers r s.naming g) : g.Legal s ↔ g.Nameable := by
  have hofText := Schema.ofText_render (Schema.isSpelled_ofItems hs h)
  have hmethod (c : Contract) : IsCodeName (Naming.methodIdent c.name) ↔
      IsMemberName (snakeCase c.name) := isCodeName_rawIdent (isNamed_snakeCase c.name)
  constructor
  · intro hlegal
    obtain ⟨schema, hschema, hnames⟩ := hlegal.schema
    rw [Schema.ofGraph_eq_ok h] at hschema
    obtain rfl := Except.ok.inj hschema
    rw [hofText, Schema.forall_names h] at hnames
    constructor
    · intro record hrecord
      exact ((names_ofRecord hs h hrecord).mp (hnames.1 record hrecord)).1
    · intro record hrecord
      exact hlegal.adapters record hrecord _ (by simp [Adapter.ofRecord])
    · intro record hrecord c hc
      have hident : IsCodeName (Naming.methodIdent c.name) := by
        apply hlegal.proxies record hrecord
        rw [Proxy.idents_ofRecord]
        exact List.mem_map.mpr ⟨c, hc, rfl⟩
      exact ⟨((names_ofRecord hs h hrecord).mp (hnames.1 record hrecord)).2 c hc,
        (hmethod c).mp hident⟩
    · intro m hm f hf
      rw [← isCodeName_ident_iff hs h hm hf]
      intro side
      exact hlegal.converters m hm .toWire _ (Converter.mem_fieldNames.mpr ⟨f, hf, side, rfl⟩)
  · intro hn
    have hschema := Schema.ofGraph_eq_ok h
    constructor
    · refine ⟨_, hschema, ?_⟩
      rw [hofText, Schema.forall_names h]
      constructor
      · intro record hrecord
        exact (names_ofRecord hs h hrecord).mpr
          ⟨hn.services record hrecord, fun c hc => (hn.methods record hrecord c hc).1⟩
      · intro m hm
        exact (names_ofMessage hs h hm).mpr
          fun f hf => isIdentifier_wireName_of_field hs h hm hf (hn.fields m hm f hf).1
    · intro m hm d name hname
      obtain ⟨f, hf, side, rfl⟩ := Converter.mem_fieldNames.mp hname
      exact (isCodeName_ident_iff hs h hm hf).mpr (hn.fields m hm f hf) side
    · intro record hrecord
      rw [List.forall_mem_cons, Adapter.idents_ofRecord, List.forall_mem_map]
      exact ⟨hn.interfaces record hrecord,
        fun c hc => (hmethod c).mpr (hn.methods record hrecord c hc).2⟩
    · intro record hrecord
      rw [Proxy.idents_ofRecord, List.forall_mem_map]
      exact fun c hc => (hmethod c).mpr (hn.methods record hrecord c hc).2

theorem IsPlainName.isMemberName {name : String} (h : IsPlainName name) :
    IsMemberName (snakeCase name) := by
  obtain ⟨hascii, hletter, hpath⟩ := h
  exact ⟨(isIdentifier_snakeCase hascii).trans hletter, hpath⟩

theorem nameable_of_isPlain {n : Naming} (h : Discovers r n g) (hr : r.IsPlain n) :
    g.Nameable := by
  have hrecord : ∀ record ∈ g.records, ∃ service ∈ r.services, IsRecord r n service record := by
    intro record hrecord
    obtain ⟨service, hservice, hsr⟩ := exists_left h.records hrecord
    exact ⟨service, (List.mem_filter.mp hservice).1, hsr⟩
  constructor
  · intro record hmem
    obtain ⟨service, hservice, hsr⟩ := hrecord record hmem
    apply isIdentRest_upperCamel
    intro c hc
    apply hr.services service hservice
    rw [hsr.named.2, String.toList_append]
    exact List.mem_append_left _ hc
  · intro record hmem
    obtain ⟨service, hservice, hsr⟩ := hrecord record hmem
    obtain ⟨i, hi, hname, -, -⟩ := hsr.interface
    rw [← hname]
    exact hr.interfaces service hservice i (List.mem_of_find?_eq_some hi)
  · intro record hmem c hc
    obtain ⟨service, hservice, hsr⟩ := hrecord record hmem
    obtain ⟨i, hi, -, hcontracts, -⟩ := hsr.interface
    obtain ⟨m, hm, hmc⟩ := exists_left hcontracts hc
    have hplain := hr.methods service hservice i (List.mem_of_find?_eq_some hi) m hm
    rw [hmc.name]
    exact ⟨(isIdentifier_upperCamel hplain.1).trans hplain.2.1, hplain.isMemberName⟩
  · intro m hm f hf
    obtain ⟨k, hk, hkm⟩ := h.exists_model hm
    obtain ⟨p, hp, hpf⟩ := exists_left hkm.fields hf
    obtain ⟨hplain, hpath⟩ := hr.fields k hk p.1 (List.fst_mem_of_mem_zipIdx hp)
    rw [hpf.wireName_eq]
    obtain ⟨w, -, rfl⟩ := hpf
    exact ⟨hplain.isMemberName, hpath⟩

/-- The output is legal exactly if the declared names that discovery lets through unchecked give
legal names. Plain names do. -/
theorem identifiers_legal_iff (h : check r s = .ok g) :
    (g.Legal s ↔ g.Nameable) ∧ (r.IsPlain s.naming → g.Legal s) := by
  obtain ⟨hcheck, hg⟩ := check_eq_ok_iff.mp h
  have hs := Settings.sound_of_check hcheck
  have hd := discovers_of_ok hg
  refine ⟨legal_iff hs hd, ?_⟩
  intro hr
  exact (legal_iff hs hd).mpr (nameable_of_isPlain hd hr)

end

def page : Model where
  name := "Page"
  fields := [{ name := "Title", type := .string }, { name := "type", type := .int32 }]

theorem identifiers_legal_page : ∃ g, check (echoing page "Pages" "PagesApi") {} = .ok g ∧
    g.Legal {} := by
  obtain ⟨g, hg, -⟩ := exists_discover_echoing page "Pages" "PagesApi" (by decide)
    (by decide +kernel) (by decide) rfl (by decide) (by decide +kernel)
  have hok : check (echoing page "Pages" "PagesApi") {} = .ok g :=
    check_eq_ok_iff.mpr ⟨Settings.check_default, hg⟩
  have hplain : (echoing page "Pages" "PagesApi").IsPlain {} := by
    constructor
    · simp only [← List.all_eq_true]
      decide
    · decide
    · decide +kernel
    · decide +kernel
  exact ⟨g, hok, (identifiers_legal_iff hok).2 hplain⟩

/-- The declared names of the fields are identifiers. In snake case one starts with a digit, and the
other cannot be escaped. -/
def login : Model where
  name := "Login"
  fields := [{ name := "_2fa", type := .string }, { name := "self_", type := .bool }]

theorem identifiers_illegal_login : (∀ f ∈ login.fields, isIdentifier f.name = true) ∧
    ∃ g, check (echoing login "Auth" "AuthApi") {} = .ok g ∧ ¬ g.Legal {} := by
  obtain ⟨g, hg, hmessages, -⟩ := exists_discover_echoing login "Auth" "AuthApi" (by decide)
    (by decide +kernel) (by decide) rfl (by decide) (by decide +kernel)
  have hcheck := Settings.check_default
  refine ⟨by decide, g, check_eq_ok_iff.mpr ⟨hcheck, hg⟩, ?_⟩
  intro hlegal
  have hnameable := (legal_iff (Settings.sound_of_check hcheck) (discovers_of_ok hg)).mp hlegal
  have hfield := hnameable.fields _ (by rw [hmessages]; exact List.mem_singleton_self _)
    (.make {} { name := "_2fa", type := .string } 1 (.single .string)) (List.mem_cons_self)
  exact absurd hfield.1.1 (by decide +kernel)

end RpcScaffold
