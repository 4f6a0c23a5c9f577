import RpcScaffold.Proofs.Generation.Agreement

/-!
# Decoding a schema

A reader that finds the whole schema in its text. So two generations with one schema text have one
package and the same blocks in the same order.
-/

namespace RpcScaffold

namespace Schema

open Code Text

/-! ## The decoder -/

def Rpc.ofWords? : List String → Option Rpc
  | ["", "", "", "", "rpc", name, input, _, output] => some ⟨name, input, output⟩
  | _ => none

def Field.ofWords? : List String → Option Field
  | ["", "", "", "", type, name, "=", ordinal] =>
    some ⟨type, name, Nat.ofDigitChars 10 ordinal.toList 0⟩
  | ["", "", "", "", modifier, type, name, "=", ordinal] =>
    some ⟨modifier ++ " " ++ type, name, Nat.ofDigitChars 10 ordinal.toList 0⟩
  | _ => none

/-- What the lines say up to the first that says nothing. -/
def leading {α : Type} (say : List String → Option α) : List (List String) → List α
  | [] => []
  | words :: rest =>
    match say words with
    | some a => a :: leading say rest
    | none => []

/-- A block goes from its header to the first line that is none of its own. -/
def blocksOf : List (List String) → List Block
  | [] => []
  | ["service", name, "\x7b"] :: rest => .service name (leading Rpc.ofWords? rest) :: blocksOf rest
  | ["message", name, "\x7b"] :: rest =>
    .message name (leading Field.ofWords? rest) :: blocksOf rest
  | _ :: rest => blocksOf rest

def packageOf : List (List String) → String
  | [] => ""
  | ["package", name] :: _ => name
  | _ :: rest => packageOf rest

/-- The lines of a text, word by word. -/
def sentences (text : String) : List (List String) := (split (· == '\n') text.toList).map wordsOf

def ofText (text : String) : Schema := ⟨packageOf (sentences text), blocksOf (sentences text)⟩

/-! ## Schemas whose names are words -/

def Rpc.IsSpelled (r : Rpc) : Prop := IsWord r.name ∧ IsWord r.input ∧ IsWord r.output

def Field.IsSpelled (f : Field) : Prop :=
  IsWord f.name ∧ ∃ word modifier, IsWord word ∧ IsType f.type word modifier

def Block.IsSpelled : Block → Prop
  | .service name rpcs => IsWord name ∧ ∀ r ∈ rpcs, r.IsSpelled
  | .message name fields => IsWord name ∧ ∀ f ∈ fields, f.IsSpelled

structure IsSpelled (s : Schema) : Prop where
  package : IsWord s.package
  blocks : ∀ b ∈ s.blocks, b.IsSpelled

theorem ofWords?_rpc {r : Rpc} (h : r.IsSpelled) :
    Rpc.ofWords? (wordsOf (indentation 1 ++ r.line).toList) = some r := by
  rw [wordsOf_rpc h.1 h.2.1 h.2.2]
  rfl

theorem ofWords?_field {f : Field} (h : f.IsSpelled) :
    Field.ofWords? (wordsOf (indentation 1 ++ f.line).toList) = some f := by
  obtain ⟨type, name, ordinal⟩ := f
  obtain ⟨hname, word, modifier, hword, htype⟩ := h
  rw [wordsOf_field htype hword hname]
  rcases htype with ⟨rfl, rfl⟩ | ⟨rfl, rfl⟩ | ⟨rfl, rfl⟩ <;>
    simp [Field.ofWords?, Nat.ofDigitChars_ten_toDigits]

/-! ## Blocks -/

/-- What is said in a block are its lines, up to the closing brace. -/
theorem leading_body {α : Type} {say : List String → Option α} {words : α → List String}
    {xs : List α} (h : ∀ x ∈ xs, say (words x) = some x) (hclose : say [closeBrace] = none)
    (rest : List (List String)) :
    leading say (xs.map words ++ [closeBrace] :: rest) = xs := by
  induction xs with
  | nil => simp [leading, hclose]
  | cons x xs ih =>
    rw [List.forall_mem_cons] at h
    rw [List.map_cons, List.cons_append, leading, h.1]
    simp only [ih h.2]

/-- Only a line of three words starts a block. -/
theorem blocksOf_cons {words : List String} (h : words.length ≠ 3) (rest : List (List String)) :
    blocksOf (words :: rest) = blocksOf rest := by
  rw [blocksOf]
  all_goals
    rintro _ rfl
    exact h rfl

theorem blocksOf_append {front : List (List String)} (h : ∀ words ∈ front, words.length ≠ 3)
    (rest : List (List String)) : blocksOf (front ++ rest) = blocksOf rest := by
  induction front with
  | nil => rfl
  | cons words front ih =>
    rw [List.forall_mem_cons] at h
    rw [List.cons_append, blocksOf_cons h.1, ih h.2]

theorem length_of_rpc {words : List String} {r : Rpc} (h : Rpc.ofWords? words = some r) :
    words.length ≠ 3 := by
  unfold Rpc.ofWords? at h
  split at h
  · simp
  · cases h

theorem length_of_field {words : List String} {f : Field} (h : Field.ofWords? words = some f) :
    words.length ≠ 3 := by
  unfold Field.ofWords? at h
  split at h
  · simp
  · simp
  · cases h

theorem blocksOf_body {α : Type} {words : α → List String} {xs : List α}
    (h : ∀ x ∈ xs, (words x).length ≠ 3) (rest : List (List String)) :
    blocksOf (xs.map words ++ [closeBrace] :: rest) = blocksOf rest := by
  rw [blocksOf_append (List.forall_mem_map.mpr h), blocksOf_cons (by simp)]

/-- The lines of a block, word by word. -/
def Block.sentences (b : Block) : List (List String) :=
  (b.step.lines 0).map fun line => wordsOf line.toList

theorem sentences_lines {α : Type} {b : Block} {header : String} {line : α → String} {xs : List α}
    (h : b.step = .block header (xs.map fun x => .line (line x))) (rest : List (List String)) :
    b.sentences ++ rest = wordsOf (indentation 0 ++ (header ++ " " ++ openBrace)).toList ::
      ((xs.map fun x => wordsOf (indentation 1 ++ line x).toList) ++ [closeBrace] :: rest) := by
  have hclose : wordsOf (indentation 0 ++ closeBrace).toList = [closeBrace] := by decide
  rw [Block.sentences, h, lines_block, List.map_append, List.map_cons, List.map_map,
    List.map_singleton, hclose]
  simp [Function.comp_def]

theorem blocksOf_sentences {b : Block} (h : b.IsSpelled) (rest : List (List String)) :
    blocksOf (b.sentences ++ rest) = b :: blocksOf rest := by
  cases b with
  | service name rpcs =>
    have hrpcs : ∀ r ∈ rpcs, Rpc.ofWords? (wordsOf (indentation 1 ++ r.line).toList) = some r :=
      fun r hr => ofWords?_rpc (h.2 r hr)
    rw [sentences_lines rfl, wordsOf_service h.1]
    change Block.service name (leading _ _) :: blocksOf _ = _
    rw [leading_body hrpcs rfl, blocksOf_body fun r hr => length_of_rpc (hrpcs r hr)]
  | message name fields =>
    have hfields : ∀ f ∈ fields,
        Field.ofWords? (wordsOf (indentation 1 ++ f.line).toList) = some f :=
      fun f hf => ofWords?_field (h.2 f hf)
    rw [sentences_lines rfl, wordsOf_message h.1]
    change Block.message name (leading _ _) :: blocksOf _ = _
    rw [leading_body hfields rfl, blocksOf_body fun f hf => length_of_field (hfields f hf)]

theorem isPlain_step (b : Block) : b.step.isPlain = true := by
  cases b with
  | service name rpcs => exact isPlain_block fun r _ => isBlankText_rpc r
  | message name fields => exact isPlain_block fun f _ => isBlankText_field f

theorem IsType.not_mem_newline {type word : String} {modifier : List String}
    (h : IsType type word modifier) (hword : IsWord word) : '\n' ∉ type.toList := by
  have hnewline := hword.not_mem_newline
  rcases h with ⟨-, rfl⟩ | ⟨-, rfl⟩ | ⟨-, rfl⟩ <;> simp [hnewline]

theorem not_mem_step {b : Block} (h : b.IsSpelled) :
    ∀ line ∈ b.step.lines 0, '\n' ∉ line.toList := by
  cases b with
  | service name rpcs =>
    apply not_mem_block
    · simpa using h.1.not_mem_newline
    · intro r hr
      obtain ⟨hname, hinput, houtput⟩ := h.2 r hr
      exact not_mem_rpc hname hinput houtput
  | message name fields =>
    apply not_mem_block
    · simpa using h.1.not_mem_newline
    · intro f hf
      obtain ⟨hname, word, modifier, hword, htype⟩ := h.2 f hf
      exact not_mem_field (htype.not_mem_newline hword) hname

/-! ## Schemas -/

theorem blocksOf_blocks {blocks : List Block} (h : ∀ b ∈ blocks, b.IsSpelled) :
    blocksOf ((blocks.flatMap fun b => [""] :: b.sentences) ++ [[""]]) = blocks := by
  induction blocks with
  | nil => rfl
  | cons b rest ih =>
    rw [List.forall_mem_cons] at h
    rw [List.flatMap_cons, List.cons_append, List.cons_append, blocksOf_cons (by simp),
      List.append_assoc, blocksOf_sentences h.1, ih h.2]

theorem sentences_render {s : Schema} (h : s.IsSpelled) :
    sentences s.render = s.preamble.map (fun line => wordsOf line.toList) ++
      ((s.blocks.flatMap fun b => [""] :: b.sentences) ++ [[""]]) := by
  rw [sentences, split_render h.package (fun b _ => isPlain_step b) fun b hb =>
    not_mem_step (h.blocks b hb), List.map_append, List.map_map, linesOf_steps, List.map_append,
    List.map_flatMap, List.append_assoc]
  rfl

theorem packageOf_cons {words : List String} (h : words.length ≠ 2) (rest : List (List String)) :
    packageOf (words :: rest) = packageOf rest := by
  rw [packageOf]
  rintro _ rfl
  exact h rfl

theorem sentences_preamble {s : Schema} (h : IsWord s.package) :
    s.preamble.map (fun line => wordsOf line.toList) = [wordsOf ("// " ++ notice).toList, [""],
      ["syntax", "=", "\"proto3\""], [""], ["package", s.package]] := by
  have hblank : wordsOf "".toList = [""] := by decide
  have hsyntax : wordsOf "syntax = \"proto3\";".toList = ["syntax", "=", "\"proto3\""] := by decide
  simp only [preamble, List.map_cons, List.map_nil, wordsOf_package h, hblank, hsyntax]

/-- A schema whose names are words is read from its text. -/
theorem ofText_render {s : Schema} (h : s.IsSpelled) : ofText s.render = s := by
  have hnotice : (wordsOf ("// " ++ notice).toList).length = 7 := by decide
  have hpackage : packageOf (sentences s.render) = s.package := by
    rw [sentences_render h, sentences_preamble h.package, List.cons_append,
      packageOf_cons (by rw [hnotice]; decide)]
    rfl
  have hblocks : blocksOf (sentences s.render) = s.blocks := by
    rw [sentences_render h, sentences_preamble h.package, List.cons_append,
      blocksOf_cons (by rw [hnotice]; decide)]
    exact blocksOf_blocks h.blocks
  rw [ofText, hpackage, hblocks]

/-! ## The schema of a graph -/

variable {r : Registry} {s : Settings} {g : ServiceGraph}

theorem isSpelled_ofMessage (hs : s.Sound) (h : Discovers r s.naming g) {m : Message}
    (hm : m ∈ g.messages.toList) : (Block.ofMessage m).IsSpelled := by
  obtain ⟨k, -, hk⟩ := h.exists_model hm
  constructor
  · rw [hk.wireName]
    exact hs.isWord_wireMessage k.name
  · rw [List.forall_mem_map]
    intro f hf
    obtain ⟨p, -, w, hw, rfl⟩ := exists_left hk.fields hf
    obtain ⟨modifier, htype⟩ := exists_isType (schemaType_eq (.make s.naming p.1 p.2 w))
    exact ⟨hs.isWord_wireField _ _, _, modifier, isWord_wireType hs hw, htype⟩

theorem isSpelled_ofRecord (hs : s.Sound) (record : ServiceRecord) :
    (Block.ofRecord s.naming record).IsSpelled := by
  constructor
  · exact hs.isWord_wireService record.shortName
  · rw [List.forall_mem_map]
    intro c _
    exact ⟨isWord_of_isNamed (isNamed_upperCamel c.name), hs.isWord_wireMessage c.input,
      hs.isWord_wireMessage c.output⟩

theorem isSpelled_ofItems (hs : s.Sound) (h : Discovers r s.naming g) :
    (ofItems s (items g [] g.records)).IsSpelled := by
  refine ⟨hs.isWord_package, ?_⟩
  rw [ofItems, List.forall_mem_map]
  intro i hi
  cases i with
  | record record => exact isSpelled_ofRecord hs record
  | message m =>
    apply isSpelled_ofMessage hs h
    rw [← message_items h, List.mem_filterMap]
    exact ⟨_, hi, rfl⟩

end Schema

/-- The decoder finds the schema of a graph in its text. -/
theorem ofText_of_generate {r : Registry} {s : Settings} {gen : Generation}
    (h : generate r s = .ok gen) :
    let schema := Schema.ofItems s (Schema.items gen.graph [] gen.graph.records)
    Schema.ofText schema.render = schema :=
  Schema.ofText_render (Schema.isSpelled_ofItems (Settings.sound_of_check (settings_of_generate h))
    (discovers_of_generate h))

/-- The text of a schema says which schema it is. Generations with one text have one package, and
the same blocks with the same rpcs and fields in the same order. -/
theorem schema_decodable {r r' : Registry} {s s' : Settings} {gen gen' : Generation}
    (h : generate r s = .ok gen) (h' : generate r' s' = .ok gen')
    (htext : (gen.bundle.get? s.layout.schemaFile).map (·.text) =
      (gen'.bundle.get? s'.layout.schemaFile).map (·.text)) :
    ∃ schema : Schema, schema.package = s.package ∧ schema.package = s'.package ∧
      (Schema.ofGraph s gen.graph {}).1 = .ok schema ∧
      (Schema.ofGraph s' gen'.graph {}).1 = .ok schema ∧
      gen.bundle.get? s.layout.schemaFile = some ⟨.schema, schema.render⟩ ∧
      gen'.bundle.get? s'.layout.schemaFile = some ⟨.schema, schema.render⟩ := by
  have hrender : (Schema.ofItems s (Schema.items gen.graph [] gen.graph.records)).render =
      (Schema.ofItems s' (Schema.items gen'.graph [] gen'.graph.records)).render := by
    rw [get?_schema h, get?_schema h'] at htext
    exact Option.some.inj htext
  have hschema : Schema.ofItems s (Schema.items gen.graph [] gen.graph.records) =
      Schema.ofItems s' (Schema.items gen'.graph [] gen'.graph.records) := by
    rw [← ofText_of_generate h, ← ofText_of_generate h', hrender]
  refine ⟨_, rfl, ?_, Schema.ofGraph_eq_ok (discovers_of_generate h), ?_, get?_schema h, ?_⟩
  · rw [hschema]
    rfl
  · rw [hschema]
    exact Schema.ofGraph_eq_ok (discovers_of_generate h')
  · rw [hschema]
    exact get?_schema h'

/-- Settings that tell the crates apart and nothing else. -/
def otherCrate : Settings := { crates := { sharedCrate := "common" } }

theorem schema_decodable_pingPong : ∃ gen gen' schema,
    generate (pingPong ["Echo"]) {} = .ok gen ∧
    generate (pingPong ["Echo"]) otherCrate = .ok gen' ∧
    (Schema.ofGraph {} gen.graph {}).1 = .ok schema ∧
    (Schema.ofGraph otherCrate gen'.graph {}).1 = .ok schema := by
  obtain ⟨gen, hgen, -⟩ := exists_generate_pingPong
  have hdiscover := discover_of_generate hgen
  have hok : check (pingPong ["Echo"]) otherCrate = .ok gen.graph :=
    check_eq_ok_iff.mpr ⟨by decide +kernel, hdiscover⟩
  have hmodules := (exists_generate_iff rfl (check_of_generate_eq_ok hgen)).mp ⟨gen, hgen⟩
  obtain ⟨gen', hgen'⟩ := (exists_generate_iff rfl hok).mpr hmodules
  have hgraph : gen'.graph = gen.graph :=
    Except.ok.inj ((check_of_generate_eq_ok hgen').symm.trans hok)
  have hschema (g : ServiceGraph) : Schema.ofItems otherCrate (Schema.items g [] g.records) =
      Schema.ofItems {} (Schema.items g [] g.records) := rfl
  have htext : (gen.bundle.get? ({} : Settings).layout.schemaFile).map (·.text) =
      (gen'.bundle.get? otherCrate.layout.schemaFile).map (·.text) := by
    rw [get?_schema hgen, get?_schema hgen', hgraph, hschema]
  obtain ⟨schema, -, -, hschema, hschema', -⟩ := schema_decodable hgen hgen' htext
  exact ⟨gen, gen', schema, hgen, hgen', hschema, hschema'⟩

end RpcScaffold
