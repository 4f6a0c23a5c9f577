import RpcScaffold.Proofs.Code.Lines
import RpcScaffold.Proofs.Lists
import RpcScaffold.Proofs.Naming.Letters
import RpcScaffold.Schema

/-!
# Reading a schema back

A reader of the text alone, line by line and word by word, and what it finds in the text of a
schema.
-/

namespace RpcScaffold.Schema

open Code Text

/-! ## The reader -/

/-- What a line of a schema says. -/
inductive Line
  | message (name : String)
  | service (name : String)
  | rpc (input output : String)
  | field (type : String)
  | other
  deriving Repr, DecidableEq

def isPunctuation (c : Char) : Bool := c == '(' || c == ')' || c == ';'

def strip (line : List Char) : List Char := line.filter (!isPunctuation ·)

@[simp] theorem strip_nil : strip [] = [] := rfl

/-- The words between single spaces, without their punctuation. -/
def wordsOf (line : List Char) : List String := (split (· == ' ') (strip line)).map String.ofList

/-- The words of a line inside a block. -/
def Line.inner : List String → Line
  | [type, _, equals, _] => if equals = "=" then .field type else .other
  | [first, second, third, _, fifth] =>
    if first = "rpc" then .rpc third fifth
    else if first = "repeated" ∨ first = "optional" then .field second
    else .other
  | _ => .other

/-- The words of a line outside. -/
def Line.outer : List String → Line
  | [kind, name, brace] =>
    if kind = "message" ∧ brace = openBrace then .message name
    else if kind = "service" ∧ brace = openBrace then .service name
    else .other
  | _ => .other

/-- Lines inside a block are indented by four spaces. -/
def Line.read (line : List Char) : Line :=
  match wordsOf line with
  | "" :: "" :: "" :: "" :: words => .inner words
  | words => .outer words

def read (text : String) : List Line := (split (· == '\n') text.toList).map Line.read

namespace Line

def message? : Line → Option String
  | message name => some name
  | _ => none

def service? : Line → Option String
  | service name => some name
  | _ => none

/-- The name of the block that starts here. -/
def block? : Line → Option String
  | message name | service name => some name
  | _ => none

def rpc? : Line → Option (String × String)
  | rpc input output => some (input, output)
  | _ => none

def field? : Line → Option String
  | field type => some type
  | _ => none

end Line

/-! ## Words -/

def isWordChar (c : Char) : Bool := c != ' ' && c != '\n' && !isPunctuation c

def IsWord (s : String) : Prop := ∀ c ∈ s.toList, isWordChar c = true

instance (s : String) : Decidable (IsWord s) :=
  decidable_of_iff (s.toList.all isWordChar = true) List.all_eq_true

theorem isWord_of_isNamed {s : String} (h : IsNamed s) : IsWord s := by
  intro c hc
  have hname := h c hc
  by_contra hnot
  have hcases : c = ' ' ∨ c = '\n' ∨ c = '(' ∨ c = ')' ∨ c = ';' := by
    simp only [isWordChar, isPunctuation] at hnot
    by_contra hne
    simp only [not_or] at hne
    simp [hne] at hnot
  rcases hcases with rfl | rfl | rfl | rfl | rfl <;> exact absurd hname (by decide)

theorem strip_cons (c : Char) (cs : List Char) :
    strip (c :: cs) = if isPunctuation c then strip cs else c :: strip cs := by
  cases h : isPunctuation c <;> simp [strip, h]

theorem strip_append (as bs : List Char) : strip (as ++ bs) = strip as ++ strip bs :=
  List.filter_append as bs

theorem IsWord.strip {w : String} (h : IsWord w) : strip w.toList = w.toList := by
  rw [Schema.strip, List.filter_eq_self]
  intro c hc
  have hword := h c hc
  rw [isWordChar, Bool.and_eq_true] at hword
  exact hword.2

theorem IsWord.ne_space {w : String} (h : IsWord w) : ∀ c ∈ w.toList, (c == ' ') = false := by
  intro c hc
  have hword := h c hc
  simp only [isWordChar, Bool.and_eq_true, bne_iff_ne] at hword
  simp [hword.1.1]

theorem IsWord.not_mem_newline {w : String} (h : IsWord w) : '\n' ∉ w.toList := by
  intro hmem
  exact absurd (h _ hmem) (by decide)

/-- A line is some words joined by spaces, but for the punctuation. -/
theorem wordsOf_eq {line : List Char} {words : List String} (hne : words ≠ [])
    (h : ∀ w ∈ words, IsWord w) (hline : strip line = join [' '] (words.map (·.toList))) :
    wordsOf line = words := by
  have hspace : ∀ piece ∈ words.map (·.toList), ∀ c ∈ piece, (c == ' ') = false := by
    rw [List.forall_mem_map]
    exact fun w hw => (h w hw).ne_space
  rw [wordsOf, hline, split_join_singleton rfl (by simpa using hne) hspace, List.map_map]
  simp [Function.comp_def]

/-! ## Lines -/

theorem isWord_repr (k : Nat) : IsWord k.repr := by
  apply isWord_of_isNamed
  intro c hc
  have hmem : c ∈ Nat.toDigits 10 k := by simpa using hc
  have hdigit : c.isDigit = true := Nat.isDigit_of_mem_toDigits (by decide) (by decide) hmem
  simp [isNameChar, Char.isAlphanum, hdigit]

theorem wordsOf_rpc {r : Rpc} (hname : IsWord r.name) (hinput : IsWord r.input)
    (houtput : IsWord r.output) : wordsOf (indentation 1 ++ r.line).toList =
      ["", "", "", "", "rpc", r.name, r.input, "returns", r.output] := by
  apply wordsOf_eq (by simp)
  · simp only [List.forall_mem_cons, hname, hinput, houtput]
    decide
  · simp [Rpc.line, toString, indentation, strip_cons, strip_append, isPunctuation, join,
      hname.strip, hinput.strip, houtput.strip, List.intercalate_cons_cons]

theorem read_rpc {r : Rpc} (hname : IsWord r.name) (hinput : IsWord r.input)
    (houtput : IsWord r.output) :
    Line.read (indentation 1 ++ r.line).toList = .rpc r.input r.output := by
  rw [Line.read, wordsOf_rpc hname hinput houtput]
  rfl

/-- The type is a word, behind a modifier or not. -/
def IsType (type word : String) (modifier : List String) : Prop :=
  (modifier = [] ∧ type = word) ∨ (modifier = ["repeated"] ∧ type = "repeated " ++ word) ∨
    (modifier = ["optional"] ∧ type = "optional " ++ word)

theorem exists_isType {type word : String}
    (h : type = word ∨ type = "repeated " ++ word ∨ type = "optional " ++ word) :
    ∃ modifier, IsType type word modifier := by
  rcases h with h | h | h
  · exact ⟨[], .inl ⟨rfl, h⟩⟩
  · exact ⟨["repeated"], .inr (.inl ⟨rfl, h⟩)⟩
  · exact ⟨["optional"], .inr (.inr ⟨rfl, h⟩)⟩

theorem wordsOf_field {type word name : String} {modifier : List String} {ordinal : Nat}
    (h : IsType type word modifier) (hword : IsWord word) (hname : IsWord name) :
    wordsOf (indentation 1 ++ Field.line ⟨type, name, ordinal⟩).toList =
      ["", "", "", ""] ++ modifier ++ [word, name, "=", ordinal.repr] := by
  have hordinal := isWord_repr ordinal
  have hdigits : strip (Nat.toDigits 10 ordinal) = Nat.toDigits 10 ordinal := by
    simpa using hordinal.strip
  apply wordsOf_eq (by simp)
  · rcases h with ⟨rfl, rfl⟩ | ⟨rfl, rfl⟩ | ⟨rfl, rfl⟩
    all_goals
      simp only [List.cons_append, List.nil_append, List.forall_mem_cons, hword, hname, hordinal]
      decide
  · rcases h with ⟨rfl, rfl⟩ | ⟨rfl, rfl⟩ | ⟨rfl, rfl⟩ <;>
      simp [Field.line, toString, indentation, strip_cons, strip_append, isPunctuation, join,
        hname.strip, hword.strip, hdigits, List.intercalate_cons_cons]

/-- The type may have a modifier. -/
theorem read_field {type word name : String} {ordinal : Nat}
    (h : type = word ∨ type = "repeated " ++ word ∨ type = "optional " ++ word)
    (hword : IsWord word) (hname : IsWord name) :
    Line.read (indentation 1 ++ Field.line ⟨type, name, ordinal⟩).toList = .field word := by
  obtain ⟨modifier, htype⟩ := exists_isType h
  rw [Line.read, wordsOf_field htype hword hname]
  rcases htype with ⟨rfl, -⟩ | ⟨rfl, -⟩ | ⟨rfl, -⟩ <;> rfl

theorem wordsOf_header {header kind name : String}
    (hheader : header.toList = kind.toList ++ ' ' :: name.toList) (hkind : IsWord kind)
    (hname : IsWord name) :
    wordsOf (indentation 0 ++ (header ++ " " ++ openBrace)).toList = [kind, name, openBrace] := by
  apply wordsOf_eq (by simp)
  · simp only [List.forall_mem_cons, hkind, hname]
    decide
  · simp [indentation, openBrace, hheader, strip_cons, strip_append, isPunctuation, join,
      hkind.strip, hname.strip, List.intercalate_cons_cons]

theorem wordsOf_message {name : String} (h : IsWord name) :
    wordsOf (indentation 0 ++ ("message " ++ name ++ " " ++ openBrace)).toList =
      ["message", name, openBrace] :=
  wordsOf_header (by simp) (by decide) h

theorem wordsOf_service {name : String} (h : IsWord name) :
    wordsOf (indentation 0 ++ ("service " ++ name ++ " " ++ openBrace)).toList =
      ["service", name, openBrace] :=
  wordsOf_header (by simp) (by decide) h

theorem read_header {header name : String} {first : Line}
    (h : (header = "message " ++ name ∧ first = .message name) ∨
      (header = "service " ++ name ∧ first = .service name)) (hname : IsWord name) :
    Line.read (indentation 0 ++ (header ++ " " ++ openBrace)).toList = first := by
  rcases h with ⟨rfl, rfl⟩ | ⟨rfl, rfl⟩
  · rw [Line.read, wordsOf_message hname]
    rfl
  · rw [Line.read, wordsOf_service hname]
    rfl

/-! ## Blocks -/

/-- The block is read as `said`, line by line. -/
structure Block.Reads (b : Block) (said : List Line) : Prop where
  plain : b.step.isPlain = true
  lines : ∀ line ∈ b.step.lines 0, '\n' ∉ line.toList
  read : (b.step.lines 0).map (fun line => Line.read line.toList) = said

theorem not_isBlankText_of_mem {s : String} {c : Char} (hc : c ∈ s.toList)
    (h : isBlank c = false) : isBlankText s = false := by
  rw [isBlankText, List.all_eq_false]
  exact ⟨c, hc, by simp [h]⟩

/-- A block of lines is written as its header, the lines and the brace that closes it. -/
theorem lines_block {α : Type} (header : String) (line : α → String) (xs : List α) :
    (Step.block header (xs.map fun x => .line (line x))).lines 0 =
      (indentation 0 ++ (header ++ " " ++ openBrace)) ::
        xs.map (fun x => indentation 1 ++ line x) ++ [indentation 0 ++ closeBrace] := by
  rw [Step.lines, linesOf_eq, List.flatMap_map, List.map_eq_flatMap]
  rfl

theorem isPlain_block {α : Type} {header : String} {line : α → String} {xs : List α}
    (hblank : ∀ x ∈ xs, isBlankText (line x) = false) :
    (Step.block header (xs.map fun x => .line (line x))).isPlain = true := by
  rw [Step.isPlain, arePlain_iff, List.forall_mem_map]
  intro x hx
  simp [Step.isPlain, hblank x hx]

theorem not_mem_block {α : Type} {header : String} {line : α → String} {xs : List α}
    (hheader : '\n' ∉ header.toList) (hlines : ∀ x ∈ xs, '\n' ∉ (line x).toList) :
    ∀ l ∈ (Step.block header (xs.map fun x => .line (line x))).lines 0, '\n' ∉ l.toList := by
  rw [lines_block, List.forall_mem_append, List.forall_mem_cons, List.forall_mem_map]
  refine ⟨⟨?_, ?_⟩, by decide⟩
  · simpa [indentation, openBrace] using hheader
  · intro x hx
    simpa [indentation] using hlines x hx

/-- A block with a line for each of `xs`. -/
theorem reads_of_lines {α : Type} {b : Block} {xs : List α} {first : Line} {said : α → Line}
    (header : String) (line : α → String)
    (hstep : b.step = .block header (xs.map fun x => .line (line x)))
    (hheader : Line.read (indentation 0 ++ (header ++ " " ++ openBrace)).toList = first)
    (hnewline : '\n' ∉ header.toList)
    (hblank : ∀ x ∈ xs, isBlankText (line x) = false)
    (hnewlines : ∀ x ∈ xs, '\n' ∉ (line x).toList)
    (hread : ∀ x ∈ xs, Line.read (indentation 1 ++ line x).toList = said x) :
    b.Reads (first :: xs.map said ++ [.other]) := by
  constructor
  · rw [hstep]
    exact isPlain_block hblank
  · rw [hstep]
    exact not_mem_block hnewline hnewlines
  · have hbody : (xs.map fun x => indentation 1 ++ line x).map (fun l => Line.read l.toList) =
        xs.map said := by
      rw [List.map_map]
      apply List.map_congr_left
      intro x hx
      rw [Function.comp_apply, hread x hx]
    have hclose : Line.read (indentation 0 ++ closeBrace).toList = .other := by decide
    rw [hstep, lines_block, List.map_append, List.map_cons, hbody, hheader, List.map_cons, hclose,
      List.map_nil]

theorem isBlankText_rpc (r : Rpc) : isBlankText r.line = false :=
  not_isBlankText_of_mem (c := 'r') (by simp [Rpc.line, toString]) rfl

theorem isBlankText_field (f : Field) : isBlankText f.line = false :=
  not_isBlankText_of_mem (c := '=') (by simp [Field.line, toString]) rfl

theorem not_mem_rpc {r : Rpc} (hname : IsWord r.name) (hinput : IsWord r.input)
    (houtput : IsWord r.output) : '\n' ∉ r.line.toList := by
  simp [Rpc.line, toString, hname.not_mem_newline, hinput.not_mem_newline,
    houtput.not_mem_newline]

theorem not_mem_field {f : Field} (htype : '\n' ∉ f.type.toList) (hname : IsWord f.name) :
    '\n' ∉ f.line.toList := by
  have hordinal := (isWord_repr f.ordinal).not_mem_newline
  simpa [Field.line, toString, htype, hname.not_mem_newline] using hordinal

theorem schemaType_eq (f : Message.Field) : f.schemaType = f.wireType.text ∨
    f.schemaType = "repeated " ++ f.wireType.text ∨
    f.schemaType = "optional " ++ f.wireType.text := by
  unfold Message.Field.schemaType
  split_ifs
  · exact .inr (.inl rfl)
  · exact .inr (.inr rfl)
  · exact .inl rfl

theorem not_mem_schemaType {f : Message.Field} (h : IsWord f.wireType.text) :
    '\n' ∉ f.schemaType.toList := by
  have htype := h.not_mem_newline
  rcases schemaType_eq f with hf | hf | hf <;> simp [hf, htype]

theorem reads_ofMessage {m : Message} (hname : IsWord m.wireName)
    (hfields : ∀ f ∈ m.fields, IsWord f.wireType.text ∧ IsWord f.wireName) :
    (Block.ofMessage m).Reads
      (.message m.wireName :: m.fields.map (fun f => .field f.wireType.text) ++ [.other]) := by
  apply reads_of_lines ("message " ++ m.wireName) fun f => (Field.ofMessageField f).line
  · simp [Block.ofMessage, Block.step, Function.comp_def]
  · exact read_header (.inl ⟨rfl, rfl⟩) hname
  · simpa using hname.not_mem_newline
  · intro f _
    exact isBlankText_field _
  · intro f hf
    exact not_mem_field (not_mem_schemaType (hfields f hf).1) (hfields f hf).2
  · intro f hf
    exact read_field (schemaType_eq f) (hfields f hf).1 (hfields f hf).2

theorem reads_ofRecord {n : Naming} {r : ServiceRecord} (hname : IsWord (n.wireService r.shortName))
    (hrpcs : ∀ c ∈ r.methods, IsWord (Naming.rpcMethod c.name) ∧ IsWord (n.wireMessage c.input) ∧
      IsWord (n.wireMessage c.output)) :
    (Block.ofRecord n r).Reads (.service (n.wireService r.shortName) ::
      r.methods.map (fun c => .rpc (n.wireMessage c.input) (n.wireMessage c.output)) ++
      [.other]) := by
  apply reads_of_lines ("service " ++ n.wireService r.shortName) fun c => (Rpc.ofContract n c).line
  · simp [Block.ofRecord, Block.step, Function.comp_def]
  · exact read_header (.inr ⟨rfl, rfl⟩) hname
  · simpa using hname.not_mem_newline
  · intro c _
    exact isBlankText_rpc _
  · intro c hc
    exact not_mem_rpc (hrpcs c hc).1 (hrpcs c hc).2.1 (hrpcs c hc).2.2
  · intro c hc
    exact read_rpc (hrpcs c hc).1 (hrpcs c hc).2.1 (hrpcs c hc).2.2

/-! ## Schemas -/

theorem wordsOf_package {package : String} (h : IsWord package) :
    wordsOf ("package " ++ package ++ ";").toList = ["package", package] := by
  apply wordsOf_eq (by simp)
  · simp only [List.forall_mem_cons, h]
    decide
  · simp [strip_cons, strip_append, isPunctuation, join, h.strip, List.intercalate_cons_cons]

theorem read_package {package : String} (h : IsWord package) :
    Line.read ("package " ++ package ++ ";").toList = .other := by
  rw [Line.read, wordsOf_package h]
  rfl

/-- The lines in front of the blocks. -/
def preamble (s : Schema) : List String :=
  ["// " ++ notice, "", "syntax = \"proto3\";", "", "package " ++ s.package ++ ";"]

theorem linesOf_steps (s : Schema) :
    linesOf 0 s.steps = s.preamble ++ s.blocks.flatMap fun b => "" :: b.step.lines 0 := by
  rw [steps, linesOf_eq, List.flatMap_append, List.flatMap_assoc]
  congr 1
  simp [Step.lines]

theorem arePlain_steps {s : Schema} (h : ∀ b ∈ s.blocks, b.step.isPlain = true) :
    arePlain s.steps = true := by
  rw [arePlain_iff, steps, List.forall_mem_append]
  constructor
  · have hpackage : isBlankText ("package " ++ s.package ++ ";") = false :=
      not_isBlankText_of_mem (c := 'p') (by simp) rfl
    simp only [List.forall_mem_cons, Step.isPlain, hpackage]
    decide
  · intro step hstep
    obtain ⟨b, hb, hstep⟩ := List.mem_flatMap.mp hstep
    rcases List.mem_pair.mp hstep with rfl | rfl
    · rfl
    · exact h b hb

theorem read_blocks {blocks : List Block} {said : List (List Line)}
    (h : List.Forall₂ Block.Reads blocks said) :
    (blocks.flatMap fun b => "" :: b.step.lines 0).map (fun line => Line.read line.toList) =
      said.flatMap (.other :: ·) := by
  induction h with
  | nil => rfl
  | cons hb _ ih =>
    rw [List.flatMap_cons, List.flatMap_cons, List.map_append, ih, List.map_cons, hb.read]
    rfl

/-- The text of a schema is cut into its lines, and the end of the last one. -/
theorem split_render {s : Schema} (hpackage : IsWord s.package)
    (hplain : ∀ b ∈ s.blocks, b.step.isPlain = true)
    (hlines : ∀ b ∈ s.blocks, ∀ line ∈ b.step.lines 0, '\n' ∉ line.toList) :
    split (· == '\n') s.render.toList = (linesOf 0 s.steps).map (·.toList) ++ [[]] := by
  rw [render, render_plain (arePlain_steps hplain)]
  apply split_printed
  rw [linesOf_steps, List.forall_mem_append]
  constructor
  · simp [preamble, notice, hpackage.not_mem_newline]
  · intro line hline
    obtain ⟨b, hb, hline⟩ := List.mem_flatMap.mp hline
    rcases List.mem_cons.mp hline with rfl | hline
    · simp
    · exact hlines b hb line hline

/-- A schema is read as its blocks, each after a line that is no part of a block. -/
theorem read_render {s : Schema} {said : List (List Line)} (hpackage : IsWord s.package)
    (h : List.Forall₂ Block.Reads s.blocks said) :
    read s.render = List.replicate 5 .other ++ said.flatMap (.other :: ·) ++ [.other] := by
  have hplain : ∀ b ∈ s.blocks, b.step.isPlain = true := by
    intro b hb
    obtain ⟨_, -, hreads⟩ := exists_right h hb
    exact hreads.plain
  have hlines : ∀ b ∈ s.blocks, ∀ line ∈ b.step.lines 0, '\n' ∉ line.toList := by
    intro b hb
    obtain ⟨_, -, hreads⟩ := exists_right h hb
    exact hreads.lines
  have hpreamble : s.preamble.map (fun line => Line.read line.toList) =
      List.replicate 5 .other := by
    simp only [preamble, List.map_cons, List.map_nil, read_package hpackage]
    decide
  rw [read, split_render hpackage hplain hlines, List.map_append, List.map_map, linesOf_steps,
    List.map_append, ← hpreamble, ← read_blocks h]
  rfl

end RpcScaffold.Schema
