import RpcScaffold.Manifest
import RpcScaffold.Proofs.ByteOrder
import RpcScaffold.Proofs.Json.Elision
import RpcScaffold.Proofs.NameMap

/-!
# Manifests are read back

The text of a manifest says all that the manifest holds. The manifest of a bundle holds what was
staged first at each path, in the order of the paths.
-/

namespace RpcScaffold

open Json

/-! ## Bundles of offered artifacts -/

/-- The text is shorter than `2 ^ 64` bytes, as every text in memory is. -/
def Artifact.Fits (a : Artifact) : Prop := a.text.utf8ByteSize < 2 ^ 64

instance (a : Artifact) : Decidable a.Fits :=
  inferInstanceAs (Decidable (a.text.utf8ByteSize < 2 ^ 64))

namespace Bundle

variable (b : Bundle)

/-- A refused artifact leaves the bundle as it is. -/
def offer (a : String × Artifact) : Bundle :=
  (b.insert a.1 a.2.kind a.2.text).toOption.getD b

/-- The bundle after any attempts to stage artifacts. -/
def offerAll (offers : List (String × Artifact)) : Bundle := offers.foldl offer {}

theorem offer_eq (a : String × Artifact) :
    b.offer a = if (b.get? a.1).isSome then b else ⟨b.artifacts.insert a.1 a.2⟩ := by
  rw [offer, Bundle.insert, NameMap.contains, Bundle.get?]
  split <;> rfl

theorem get?_offer (a : String × Artifact) (path : String) :
    (b.offer a).get? path = (b.get? path).or (if path = a.1 then some a.2 else none) := by
  have hget := b.artifacts.get?_insert a.1 path a.2
  rw [offer_eq]
  by_cases hpath : path = a.1
  · subst hpath
    cases htaken : b.get? a.1 with
    | none => simpa [Bundle.get?] using hget
    | some old => simp [htaken]
  · rw [if_neg hpath] at hget ⊢
    rw [Option.or_none]
    split
    · rfl
    · exact hget

/-- The first offer at a path is the one that counts. -/
theorem get?_offerAll (offers : List (String × Artifact)) (path : String) :
    (offerAll offers).get? path = offers.lookup path := by
  have hfold : ∀ b : Bundle,
      (offers.foldl offer b).get? path = (b.get? path).or (offers.lookup path) := by
    induction offers with
    | nil => simp
    | cons a rest ih =>
      intro b
      rw [List.foldl_cons, ih, get?_offer, Option.or_assoc, List.lookup_cons]
      by_cases hpath : path = a.1
      · simp [hpath]
      · rw [if_neg hpath, beq_eq_false_iff_ne.mpr hpath, Option.none_or]
  exact hfold {}

theorem sorted_offerAll (offers : List (String × Artifact)) :
    (offerAll offers).artifacts.Sorted := by
  have hfold : ∀ b : Bundle, b.artifacts.Sorted → (offers.foldl offer b).artifacts.Sorted := by
    induction offers with
    | nil => exact fun b hb => hb
    | cons a rest ih =>
      intro b hb
      apply ih
      rw [offer_eq]
      split
      · exact hb
      · exact hb.insert
  exact hfold {} .nil

theorem mem_offerAll {offers : List (String × Artifact)} {e : String × Artifact} :
    e ∈ (offerAll offers).toList ↔ offers.lookup e.1 = some e.2 := by
  rw [← get?_offerAll]
  constructor
  · exact (sorted_offerAll offers).get?_of_mem
  · intro hget
    obtain ⟨before, after, heq, -⟩ := List.lookup_eq_some_iff.mp hget
    rw [toList, heq]
    exact List.mem_append_right _ List.mem_cons_self

theorem mem_paths_offerAll {offers : List (String × Artifact)} {path : String} :
    path ∈ (offerAll offers).paths ↔ path ∈ offers.map (·.1) := by
  have hkeys (entries : List (String × Artifact)) :
      path ∈ entries.map (·.1) ↔ (entries.lookup path).isSome = true := by
    rw [List.lookup_isSome_iff, List.mem_map]
    simp only [beq_iff_eq, eq_comm (a := path)]
  rw [hkeys, ← get?_offerAll]
  exact hkeys _

/-- What a manifest tells of the artifacts. -/
def listing : List (String × ArtifactKind × Nat × String) :=
  b.toList.map fun e => (e.1, e.2.kind, e.2.text.utf8ByteSize, Sha256.digest e.2.text)

end Bundle

theorem ArtifactKind.ofText?_text (k : ArtifactKind) : ofText? k.text = some k := by
  cases k <;> decide

theorem ArtifactKind.text_injective : Function.Injective text := by
  intro k l h
  rw [← Option.some_inj, ← ofText?_text, ← ofText?_text, h]

namespace Manifest

/-! ## Decoding what was encoded -/

/-- No key may be missing. -/
def noDefault (_ : List String) : Option Json := none

def Entry.slots (e : Entry) : List (Slot Entry) := [
  ⟨"path", .string e.path, fun d => d.path = e.path⟩,
  ⟨"kind", .string e.kind, fun d => d.kind = e.kind⟩,
  ⟨"bytes", .number (.nat e.bytes), fun d => d.bytes = e.bytes⟩,
  ⟨"sha256", .string e.sha256, fun d => d.sha256 = e.sha256⟩]

theorem Entry.builds (e : Entry) (place : List String) :
    Entry.record.Builds noDefault place e.slots e where
  keys := rfl
  required := by decide
  set := by
    simp only [slots, List.forall_mem_cons]
    refine ⟨?_, ?_, ?_, ?_, by simp⟩ <;> intro j hj d
    · rw [hj.eq_of_string]
      exact ⟨{ d with path := e.path }, rfl, by simp⟩
    · rw [hj.eq_of_string]
      exact ⟨{ d with kind := e.kind }, rfl, by simp⟩
    · rw [hj.eq_of_number]
      exact ⟨{ d with bytes := e.bytes }, rfl, by simp⟩
    · rw [hj.eq_of_string]
      exact ⟨{ d with sha256 := e.sha256 }, rfl, by simp⟩
  missing := nofun
  whole := by
    intro d h
    cases d
    cases e
    simpa [slots] using h

def slots (m : Manifest) : List (Slot Manifest) := [
  ⟨"version", .string m.version, fun d => d.version = m.version⟩,
  ⟨"generatorVersion", .string m.generatorVersion,
    fun d => d.generatorVersion = m.generatorVersion⟩,
  ⟨"namespace", .string m.package, fun d => d.package = m.package⟩,
  ⟨"artifacts", .array (m.entries.map Entry.encode), fun d => d.entries = m.entries⟩]

theorem builds (m : Manifest) : record.Builds noDefault [] m.slots m where
  keys := rfl
  required := by decide
  set := by
    simp only [slots, List.forall_mem_cons]
    refine ⟨?_, ?_, ?_, ?_, by simp⟩ <;> intro j hj d
    · rw [hj.eq_of_string]
      exact ⟨{ d with version := m.version }, rfl, by simp⟩
    · rw [hj.eq_of_string]
      exact ⟨{ d with generatorVersion := m.generatorVersion }, rfl, by simp⟩
    · rw [hj.eq_of_string]
      exact ⟨{ d with package := m.package }, rfl, by simp⟩
    · have hentries := decodeList_of_elided
        (fun e _ j hj => (e.builds ["artifacts"]).decode hj .direct) hj
      exact ⟨{ d with entries := m.entries }, map_eq_ok.mpr ⟨_, hentries, rfl⟩, by simp⟩
  missing := nofun
  whole := by
    intro d h
    cases d
    cases m
    simpa [slots] using h

theorem decode_encode (m : Manifest) : decode m.encode.sorted = .ok m :=
  m.builds.decode (.same _) .direct

/-! ## Texts -/

theorem within_encode {m : Manifest} (h : ∀ e ∈ m.entries, e.bytes < 2 ^ 64) :
    Within 3 m.encode := by
  refine .object ?_
  simp only [List.forall_mem_cons]
  refine ⟨.string _, .string _, .string _, .array ?_, by simp⟩
  rw [List.forall_mem_map]
  intro e he
  refine .object ?_
  simp only [List.forall_mem_cons]
  exact ⟨.string _, .string _, .nat (h e he), .string _, by simp⟩

theorem parse_text {m : Manifest} (h : ∀ e ∈ m.entries, e.bytes < 2 ^ 64) :
    Json.parse (bytesOf m.text) = .ok m.encode.sorted := by
  have hbytes : bytesOf m.text = utf8 (Spacing.indented.text 0 m.encode ++ ['\n']) := by
    rw [bytesOf_eq, text, String.toList_append, printPretty, String.toList_ofList]
    rfl
  rw [hbytes]
  exact Spacing.indented.parse_text (within_encode h) (by decide) (by simp [IsBlank])

/-- Manifests with one text are equal. -/
theorem eq_of_text {m m' : Manifest} (h : ∀ e ∈ m.entries, e.bytes < 2 ^ 64)
    (h' : ∀ e ∈ m'.entries, e.bytes < 2 ^ 64) (htext : m.text = m'.text) : m = m' := by
  have hparse := parse_text h
  rw [htext, parse_text h'] at hparse
  have hdecode := decode_encode m
  rw [← Except.ok.inj hparse, decode_encode] at hdecode
  exact (Except.ok.inj hdecode).symm

/-! ## Manifests of bundles -/

theorem path_entries (b : Bundle) (package : String) :
    (ofBundle b package).entries.map (·.path) = b.paths := by
  rw [ofBundle, List.map_map]
  rfl

theorem bytes_lt {offers : List (String × Artifact)} (h : ∀ a ∈ offers, a.2.Fits)
    (package : String) :
    ∀ e ∈ (ofBundle (Bundle.offerAll offers) package).entries, e.bytes < 2 ^ 64 := by
  rw [ofBundle, List.forall_mem_map]
  intro e he
  obtain ⟨before, after, heq, -⟩ := List.lookup_eq_some_iff.mp (Bundle.mem_offerAll.mp he)
  exact h (e.1, e.2) (heq ▸ List.mem_append_right _ List.mem_cons_self)

/-- The entry for a line of the listing. -/
def Entry.ofListed (l : String × ArtifactKind × Nat × String) : Entry :=
  ⟨l.1, l.2.1.text, l.2.2.1, l.2.2.2⟩

theorem Entry.ofListed_injective : Function.Injective ofListed := by
  rintro ⟨path, kind, bytes, digest⟩ ⟨path', kind', bytes', digest'⟩ h
  obtain ⟨hpath, hkind, hbytes, hdigest⟩ := Entry.mk.inj h
  rw [Prod.mk.injEq, Prod.mk.injEq, Prod.mk.injEq]
  exact ⟨hpath, ArtifactKind.text_injective hkind, hbytes, hdigest⟩

theorem entries_eq (b : Bundle) (package : String) :
    (ofBundle b package).entries = b.listing.map Entry.ofListed := by
  rw [ofBundle, Bundle.listing, List.map_map]
  rfl

theorem ofBundle_inj {b b' : Bundle} {package package' : String} :
    ofBundle b package = ofBundle b' package' ↔ package = package' ∧ b.listing = b'.listing := by
  have hentries := (List.map_injective_iff.mpr Entry.ofListed_injective).eq_iff
    (a := b.listing) (b := b'.listing)
  rw [← entries_eq b package, ← entries_eq b' package'] at hentries
  rw [← hentries]
  constructor
  · intro h
    exact ⟨congrArg Manifest.package h, congrArg Manifest.entries h⟩
  · rintro ⟨rfl, h⟩
    rw [ofBundle, ofBundle, Manifest.mk.injEq]
    exact ⟨rfl, rfl, rfl, h⟩

/-- The text of a manifest is read back. There is one entry for each path that was offered, in the
order of the bytes, and it tells of the first offer at that path. Two manifests have one text exactly
if they are for one package and for bundles with one listing. -/
theorem text_tells {offers offers' : List (String × Artifact)} (h : ∀ a ∈ offers, a.2.Fits)
    (h' : ∀ a ∈ offers', a.2.Fits) (package package' : String) :
    let b := Bundle.offerAll offers
    let b' := Bundle.offerAll offers'
    let m := ofBundle b package
    (∃ json, Json.parse (bytesOf m.text) = .ok json ∧ decode json = .ok m) ∧
    m.entries.map (·.path) = b.paths ∧
    (m.entries.map (bytesOf ·.path)).Pairwise (· < ·) ∧
    (∀ path, path ∈ b.paths ↔ path ∈ offers.map (·.1)) ∧
    (∀ e ∈ m.entries, ∃ a, offers.lookup e.path = some a ∧ e.kind = a.kind.text ∧
      e.bytes = (bytesOf a.text).length ∧ e.sha256 = Sha256.digest a.text) ∧
    (m.text = (ofBundle b' package').text ↔ package = package' ∧ b.listing = b'.listing) := by
  intro b b' m
  have hbytes := bytes_lt h package
  have hbytes' := bytes_lt h' package'
  refine ⟨⟨_, parse_text hbytes, decode_encode m⟩, path_entries b package, ?_, ?_, ?_, ?_⟩
  · have hsorted := (Bundle.sorted_offerAll offers).names
    change b.paths.Pairwise (· < ·) at hsorted
    rw [← path_entries b package, List.pairwise_map] at hsorted
    rw [List.pairwise_map]
    exact hsorted.imp bytesOf_lt_iff.mpr
  · exact fun path => Bundle.mem_paths_offerAll
  · change ∀ e ∈ b.toList.map _, _
    rw [List.forall_mem_map]
    intro e he
    exact ⟨e.2, Bundle.mem_offerAll.mp he, rfl, rfl, rfl⟩
  · rw [← ofBundle_inj]
    exact ⟨eq_of_text hbytes hbytes', congrArg text⟩

/-- The second offer at `README.txt` is refused, so the other list makes the same bundle. -/
theorem text_tells_readme :
    let readme : String × Artifact := ("README.txt", ⟨.instructions, "hi\n"⟩)
    let schema : String × Artifact := ("shared/grpc.proto", ⟨.schema, "syntax = \"proto3\";\n"⟩)
    let offers := [schema, readme, ("README.txt", ⟨.schema, ""⟩)]
    let m := ofBundle (Bundle.offerAll offers) "demo"
    (∃ json, Json.parse (bytesOf m.text) = .ok json ∧ decode json = .ok m) ∧
    m.entries.map (·.path) = ["README.txt", "shared/grpc.proto"] ∧
    m.text = (ofBundle (Bundle.offerAll [readme, schema]) "demo").text := by
  intro readme schema offers m
  have hfit : ∀ a ∈ offers, a.2.Fits := by decide +kernel
  have hfit' : ∀ a ∈ [readme, schema], a.2.Fits := by decide +kernel
  have hsame : Bundle.offerAll offers = Bundle.offerAll [readme, schema] := by decide +kernel
  obtain ⟨hread, hpaths, -, -, -, htext⟩ := text_tells hfit hfit' "demo" "demo"
  refine ⟨hread, ?_, htext.mpr ⟨rfl, congrArg Bundle.listing hsame⟩⟩
  rw [hpaths]
  decide +kernel

end Manifest

end RpcScaffold
