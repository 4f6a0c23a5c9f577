import RpcScaffold.Proofs.Converter.RoundTrip
import RpcScaffold.Proofs.Generation.Check

/-!
# Which fields a literal sets

A converter makes a record with a literal, which must not set a field twice. The fields of a message
have distinct names on the wire. In the domain a timestamp has no prefix that keeps it apart.
-/

namespace RpcScaffold

open Converter Text

/-- The fields that the literal of a conversion sets. -/
def Converter.Conversion.members (c : Conversion) : List String := c.fields.map (·.1)

variable {s : Settings} {m : Model} {message : Message}

theorem conversion_members (s : Settings) (message : Message) (d : Direction) :
    ((Module.ofMessage s message).conversion d).members = message.fields.map d.target.ident := by
  rw [Conversion.members, conversion_fields, List.map_map]
  rfl

theorem IsMessage.toDomain_members {n : Naming} (h : IsMessage n m message) (s : Settings) :
    (Module.ofMessage s message).toDomain.members =
      m.fields.map fun f => Naming.domainField f.name :=
  (conversion_members s message .toDomain).trans
    (h.map_fields_fst fun _ _ ⟨_, _, hfield⟩ => hfield ▸ rfl)

theorem domainField_eq_iff {a b : String} :
    Naming.domainField a = Naming.domainField b ↔ snakeCase a = snakeCase b :=
  rawIdent_eq_iff (isNamed_snakeCase a) (isNamed_snakeCase b)

/-- On the wire only the prefix of timestamps keeps two fields apart that have one name in the
domain. -/
theorem nodup_domainFields_iff {n : Naming} {fs : List Model.Field}
    (h : (fs.map (·.wireName n)).Nodup) :
    (fs.map fun f => Naming.domainField f.name).Nodup ↔
      ∀ f ∈ fs, ∀ g ∈ fs, Message.isTimestamp f.type = true → Message.isTimestamp g.type = false →
        snakeCase f.name ≠ snakeCase g.name := by
  constructor
  · intro hnodup f hf g hg hstamp hplain heq
    obtain rfl := List.inj_on_of_nodup_map hnodup hf hg (domainField_eq_iff.mpr heq)
    rw [hstamp] at hplain
    cases hplain
  · intro hapart
    refine h.of_map.map_on ?_
    intro f hf g hg heq
    have heq := domainField_eq_iff.mp heq
    have hkind : Message.isTimestamp f.type = Message.isTimestamp g.type := by
      cases hf' : Message.isTimestamp f.type with
      | true =>
        cases hg' : Message.isTimestamp g.type with
        | true => rfl
        | false => exact absurd heq (hapart f hf g hg hf' hg')
      | false =>
        cases hg' : Message.isTimestamp g.type with
        | true => exact absurd heq.symm (hapart g hg f hf hg' hf')
        | false => rfl
    apply List.inj_on_of_nodup_map h hf hg
    rw [Model.Field.wireName, Model.Field.wireName, Naming.wireField, Naming.wireField, heq, hkind]

theorem Settings.Sound.hash_not_mem_timestampPrefix (hs : s.Sound) :
    '#' ∉ s.naming.timestampPrefix.toList := by
  rcases hs.timestampPrefix with hempty | hident
  · simp [hempty]
  · exact (isNamed_of_isIdentifier hident).hash_not_mem

/-- Without a prefix all fields have the same name on both sides. -/
theorem Model.Field.wireName_of_no_prefix {n : Naming} (hn : n.timestampPrefix = "")
    (f : Model.Field) : f.wireName n = snakeCase f.name := by
  rw [Model.Field.wireName, Naming.wireField, hn, String.empty_append, ite_self]

/-- The literal of the wire never sets a field twice. The literal of the domain does if and only if
a timestamp has the snake case of a field that is none, which needs a prefix for timestamps. -/
theorem literals_nodup_iff (hs : s.check = .ok ()) (h : Message.ofModel s.naming m = .ok message) :
    (Module.ofMessage s message).toWire.members.Nodup ∧
    ((Module.ofMessage s message).toDomain.members.Nodup ↔
      ∀ f ∈ m.fields, ∀ g ∈ m.fields, Message.isTimestamp f.type = true →
        Message.isTimestamp g.type = false → snakeCase f.name ≠ snakeCase g.name) ∧
    (s.naming.timestampPrefix = "" → (Module.ofMessage s message).toDomain.members.Nodup) := by
  obtain ⟨hm, hnames, -⟩ := ofModel_eq_ok.mp h
  refine ⟨?_, ?_, ?_⟩
  · have hwire : (Module.ofMessage s message).toWire.members =
        message.fields.map Side.wire.ident :=
      conversion_members s message .toWire
    rw [hwire]
    exact nodup_wireIdents (Settings.sound_of_check hs).hash_not_mem_timestampPrefix h
  · rw [hm.toDomain_members, nodup_domainFields_iff hnames]
  · intro hno
    rw [hm.toDomain_members, nodup_domainFields_iff hnames]
    intro f hf g hg hstamp hplain heq
    have hsame : f = g := by
      apply List.inj_on_of_nodup_map hnames hf hg
      rw [Model.Field.wireName_of_no_prefix hno, Model.Field.wireName_of_no_prefix hno, heq]
    rw [hsame, hplain] at hstamp
    cases hstamp

/-- A model with one timestamp and one text. -/
def dated (timestamp text : String) : Model where
  name := "Event"
  fields := [{ name := timestamp, type := .timestamp }, { name := text, type := .string }]

theorem exists_ofModel_dated (timestamp text : String)
    (h : Model.Field.wireName {} ⟨timestamp, .timestamp, false⟩ ≠
      Model.Field.wireName {} ⟨text, .string, false⟩) :
    ∃ message, Message.ofModel {} (dated timestamp text) = .ok message := by
  refine exists_ofModel_eq_ok.mpr ⟨?_, ?_, by simp [dated]⟩
  · simp only [dated, List.forall_mem_cons]
    exact ⟨⟨_, rfl⟩, ⟨_, rfl⟩, by simp⟩
  · simpa [dated] using h

theorem literals_nodup_iff_dated : ∃ message,
    Message.ofModel {} (dated "CreatedAt" "title") = .ok message ∧
      (Module.ofMessage {} message).toWire.members.Nodup ∧
      (Module.ofMessage {} message).toDomain.members.Nodup := by
  obtain ⟨message, hmessage⟩ := exists_ofModel_dated "CreatedAt" "title" (by decide +kernel)
  obtain ⟨hwire, hdomain, -⟩ := literals_nodup_iff Settings.check_default hmessage
  exact ⟨message, hmessage, hwire, hdomain.mpr (by decide +kernel)⟩

/-- The model has distinct names on the wire, and its domain literal sets a field twice. -/
theorem literals_dated_repeat : ∃ message, ({} : Settings).check = .ok () ∧
    Message.ofModel ({} : Settings).naming (dated "CreatedAt" "created_at") = .ok message ∧
      (Module.ofMessage {} message).toDomain.members = ["created_at", "created_at"] := by
  obtain ⟨message, hmessage⟩ := exists_ofModel_dated "CreatedAt" "created_at" (by decide +kernel)
  refine ⟨message, Settings.check_default, hmessage, ?_⟩
  rw [(ofModel_eq_ok.mp hmessage).1.toDomain_members]
  decide +kernel

end RpcScaffold
