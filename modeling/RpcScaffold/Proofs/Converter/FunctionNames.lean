import RpcScaffold.Proofs.Converter.Values
import RpcScaffold.Proofs.Generation.Check
import RpcScaffold.Proofs.Naming.Alphanumerics

/-!
# The names of a converter module

A converter module defines four functions and imports two types. A prefix for wire names with a
letter or digit keeps the types apart, and the functions too unless it spells a rotation of `list`.
-/

namespace RpcScaffold

open Converter Text

/-- The functions that a converter module defines, in their order. -/
def Converter.Module.functionNames (m : Module) : List String :=
  [m.toWire.name, m.toDomain.name, m.toWireList.name, m.toDomainList.name]

/-! ## Prefixes that leave no trace -/

def IsUnderscores (s : String) : Prop := ∀ c ∈ s.toList, c = '_'

instance : DecidablePred IsUnderscores := fun s =>
  decidable_of_iff (s.toList.all (· == '_') = true) (by simp [IsUnderscores])

theorem IsUnderscores.marks {p : String} (h : IsUnderscores p) :
    ∀ c ∈ p.toList, isAlphanumeric c = false := by
  intro c hc
  rw [h c hc]
  decide

/-- An identifier without a letter or digit is made of underscores. -/
theorem isUnderscores_iff {p : String} (hp : isIdentifier p = true) :
    IsUnderscores p ↔ alphanumerics p = [] := by
  rw [alphanumerics_eq_nil]
  constructor
  · exact IsUnderscores.marks
  · intro h c hc
    have hrest := (isIdentifier_iff.mp hp).2 c hc
    have hmark := h c hc
    rw [isAlphanumeric, isAscii_of_isIdentRest hrest, if_pos rfl] at hmark
    simpa [isIdentRest, hmark] using hrest

theorem IsUnderscores.snakeCase_append {p : String} (h : IsUnderscores p) (t : String) :
    snakeCase (p ++ t) = snakeCase t := by
  rw [snakeCase, snakeCase, String.toList_append, words_append_of_marks h.marks]

theorem IsUnderscores.upperCamel_append {p : String} (h : IsUnderscores p) (t : String) :
    upperCamel (p ++ t) = upperCamel t := by
  rw [upperCamel, upperCamel, String.toList_append, words_append_of_marks h.marks]

/-! ## A name in camel case behind a prefix -/

section

variable {p name : String} (hname : isIdentifier name = true)
include hname

theorem alphanumerics_prefixed :
    alphanumerics (p ++ upperCamel name) = alphanumerics p ++ alphanumerics name := by
  rw [alphanumerics_append, alphanumerics_upperCamel (isAscii_of_isIdentifier hname)]

variable (hp : isIdentifier p = true)
include hp

theorem alphanumerics_snakeCase_prefixed :
    alphanumerics (snakeCase (p ++ upperCamel name)) = alphanumerics p ++ alphanumerics name := by
  have hascii : ∀ c ∈ (p ++ upperCamel name).toList, isAscii c = true := by
    rw [String.toList_append, List.forall_mem_append]
    exact ⟨isAscii_of_isIdentifier hp, fun c hc =>
      isAscii_of_isIdentRest (isIdentRest_upperCamel (isAscii_of_isIdentifier hname) c hc)⟩
  rw [alphanumerics_snakeCase hascii, alphanumerics_prefixed hname]

/-- The functions for single values have one name. -/
theorem snakeCase_prefixed_eq_iff :
    snakeCase (p ++ upperCamel name) = snakeCase name ↔ IsUnderscores p ∧ Survives name := by
  have hascii := isAscii_of_isIdentifier hname
  rw [← snakeCase_upperCamel_iff (hasRegularLetters_of_ascii hascii)]
  constructor
  · intro heq
    have hletters := congrArg alphanumerics heq
    rw [alphanumerics_snakeCase_prefixed hname hp, alphanumerics_snakeCase hascii,
      List.append_left_eq_self] at hletters
    have hmarks := (isUnderscores_iff hp).mpr hletters
    rw [hmarks.snakeCase_append] at heq
    exact ⟨hmarks, heq⟩
  · rintro ⟨hmarks, heq⟩
    rw [hmarks.snakeCase_append, heq]

theorem snakeCase_ne_prefixed_list :
    snakeCase name ≠ snakeCase (p ++ upperCamel name) ++ "_list" := by
  intro heq
  have hletters := congrArg (fun s => (alphanumerics s).length) heq
  simp only [alphanumerics_append, alphanumerics_snakeCase_prefixed hname hp,
    alphanumerics_snakeCase (isAscii_of_isIdentifier hname), List.length_append] at hletters
  have hlist : (alphanumerics "_list").length = 4 := by decide
  omega

/-- The function for a wire value has the name of the function for a list of the domain. -/
theorem isRotated_list (h : snakeCase (p ++ upperCamel name) = snakeCase name ++ "_list") :
    (alphanumerics p).IsRotated "list".toList := by
  have hletters := congrArg alphanumerics h
  rw [alphanumerics_append, alphanumerics_snakeCase_prefixed hname hp,
    alphanumerics_snakeCase (isAscii_of_isIdentifier hname)] at hletters
  have hlist : alphanumerics "_list" = "list".toList := by decide
  rw [← hlist]
  exact isRotated_of_append_eq hletters

/-- The types have one name. -/
theorem eq_prefixed_iff :
    name = p ++ upperCamel name ↔ IsUnderscores p ∧ ∃ w, upperCamel w = w ∧ name = p ++ w := by
  constructor
  · intro heq
    have hletters := congrArg alphanumerics heq
    rw [alphanumerics_prefixed hname, eq_comm, List.append_left_eq_self] at hletters
    have hmarks := (isUnderscores_iff hp).mpr hletters
    refine ⟨hmarks, upperCamel name, ?_, heq⟩
    rw [← hmarks.upperCamel_append (upperCamel name), ← heq]
  · rintro ⟨hmarks, w, hw, rfl⟩
    rw [hmarks.upperCamel_append, hw]

end

/-! ## The module -/

theorem ne_append_list (s : String) : s ≠ s ++ "_list" := by
  intro heq
  have hlength := congrArg String.length heq
  simp at hlength

/-- Of two functions and their variants for lists, one may meet the other or its variant. -/
theorem nodup_variants {a b : String} :
    ["from_" ++ a, "from_" ++ b, "from_" ++ a ++ "_list", "from_" ++ b ++ "_list"].Nodup ↔
      a ≠ b ∧ a ≠ b ++ "_list" ∧ b ≠ a ++ "_list" := by
  simp only [List.nodup_cons, List.mem_cons, List.not_mem_nil, String.append_assoc,
    String.append_right_inj, String.append_left_inj, ne_append_list, List.nodup_nil, or_false,
    false_or, not_or, not_false_eq_true, and_true]
  constructor
  · rintro ⟨⟨hsingle, hlist⟩, hlist', -⟩
    exact ⟨hsingle, hlist, hlist'⟩
  · rintro ⟨hsingle, hlist, hlist'⟩
    exact ⟨⟨hsingle, hlist⟩, hlist', hsingle⟩

theorem functionNames_eq (s : Settings) (message : Message) :
    (Module.ofMessage s message).functionNames =
      ["from_" ++ snakeCase message.name,
        "from_" ++ snakeCase (s.naming.wireMessage message.name),
        "from_" ++ snakeCase message.name ++ "_list",
        "from_" ++ snakeCase (s.naming.wireMessage message.name) ++ "_list"] := rfl

/-- Two functions of a module have one name if the prefix for wire names is made of underscores and
camel case keeps the words of the model apart, or if the wire name in snake case is the model's with
`_list`, for which the prefix has to spell a rotation of `list`. The types have one name if the
model is named by a prefix of underscores and a name in camel case. -/
theorem converterNames_nodup_iff {s : Settings} {m : Model} {message : Message}
    (hs : s.check = .ok ()) (hname : isIdentifier m.name = true)
    (h : Message.ofModel s.naming m = .ok message) :
    ((Module.ofMessage s message).functionNames.Nodup ↔
      ¬ (IsUnderscores s.naming.wirePrefix ∧ Survives m.name) ∧
      snakeCase message.wireName ≠ snakeCase m.name ++ "_list") ∧
    (snakeCase message.wireName = snakeCase m.name ++ "_list" →
      (alphanumerics s.naming.wirePrefix).IsRotated "list".toList) ∧
    ((Module.ofMessage s message).domain ≠ (Module.ofMessage s message).wire ↔
      ¬ (IsUnderscores s.naming.wirePrefix ∧
        ∃ w, upperCamel w = w ∧ m.name = s.naming.wirePrefix ++ w)) := by
  have hp := (Settings.sound_of_check hs).wirePrefix
  have hm := (ofModel_eq_ok.mp h).1
  have hwire : message.wireName = s.naming.wirePrefix ++ upperCamel m.name := hm.wireName
  refine ⟨?_, ?_, ?_⟩
  · rw [functionNames_eq, nodup_variants, hm.name, ← hm.wireName, hwire,
      ← snakeCase_prefixed_eq_iff hname hp]
    constructor
    · rintro ⟨hsingle, -, hlist⟩
      exact ⟨Ne.symm hsingle, hlist⟩
    · rintro ⟨hsingle, hlist⟩
      exact ⟨Ne.symm hsingle, snakeCase_ne_prefixed_list hname hp, hlist⟩
  · rw [hwire]
    exact isRotated_list hname hp
  · have htypes : (Module.ofMessage s message).domain = (Module.ofMessage s message).wire ↔
        m.name = s.naming.wirePrefix ++ upperCamel m.name := by
      rw [← hwire, ← hm.name]
      rfl
    rw [Ne, htypes, eq_prefixed_iff hname hp]

/-- The message of a model without fields. -/
def fieldless (n : Naming) (name : String) : Message := ⟨name, n.wireMessage name, []⟩

theorem ofModel_fieldless (n : Naming) (name : String) :
    Message.ofModel n { name := name } = .ok (fieldless n name) := rfl

theorem converterNames_nodup_person :
    (Module.ofMessage {} (fieldless {} "Person")).functionNames.Nodup ∧
    (Module.ofMessage {} (fieldless {} "Person")).domain ≠
      (Module.ofMessage {} (fieldless {} "Person")).wire := by
  obtain ⟨hfunctions, -, htypes⟩ := converterNames_nodup_iff Settings.check_default
    (by decide : isIdentifier "Person" = true) (ofModel_fieldless {} "Person")
  have hprefix : ¬ IsUnderscores ({} : Settings).naming.wirePrefix := by decide
  exact ⟨hfunctions.mpr ⟨fun h => hprefix h.1, by decide +kernel⟩,
    htypes.mpr fun h => hprefix h.1⟩

/-- A prefix without a letter or digit is accepted, and is lost in the names of functions. -/
def underscored : Settings := { naming := { wirePrefix := "_" } }

theorem converterNames_underscored_repeat :
    underscored.check = .ok () ∧ isIdentifier "_Person" = true ∧
    Message.ofModel underscored.naming { name := "_Person" } =
      .ok (fieldless underscored.naming "_Person") ∧
    (Module.ofMessage underscored (fieldless underscored.naming "_Person")).functionNames =
      ["from_person", "from_person", "from_person_list", "from_person_list"] ∧
    (Module.ofMessage underscored (fieldless underscored.naming "_Person")).domain =
      (Module.ofMessage underscored (fieldless underscored.naming "_Person")).wire :=
  ⟨by decide +kernel, by decide, rfl, by decide +kernel, by decide +kernel⟩

/-- A prefix that spells `list`. -/
example : (Module.ofMessage { naming := { wirePrefix := "List" } }
    (fieldless { wirePrefix := "List" } "List")).functionNames =
      ["from_list", "from_list_list", "from_list_list", "from_list_list_list"] := by
  decide +kernel

end RpcScaffold
