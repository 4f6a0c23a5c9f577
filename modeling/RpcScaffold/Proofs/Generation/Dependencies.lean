import RpcScaffold.Proofs.Converter.Imports
import RpcScaffold.Proofs.Generation.References

/-!
# The packages that the instructions list

A timestamp and a decimal are types of other packages. The instructions look for them in the
declared types, the head of a converter looks at the elements of its fields, and the expressions
have a look of their own. They agree on every type that is let through.
-/

namespace RpcScaffold

open Code Converter Text

namespace Instructions

/-! ## Listed packages -/

/-- The line adds the package at some version. -/
def isListing (package line : String) : Bool := (package ++ " = \"").toList.isPrefixOf line.toList

/-- The steps write a line that adds the package. Lines are taken as they are written: a name or a
version may hold anything, so the text does not tell them apart. -/
def lists (steps : List Step) (package : String) : Bool := (textsOf steps).any (isListing package)

theorem lists_append (as bs : List Step) (package : String) :
    lists (as ++ bs) package = (lists as package || lists bs package) := by
  rw [lists, textsOf_append, List.any_append, lists, lists]

variable {g : ServiceGraph} {s : Settings} {v : PackageVersions} {k : Lossy}

/-! ## Other lines -/

/-- The line begins unlike the names of both packages. -/
def opensApart (line : String) : Bool := line.toList.head?.any fun c => c != 'c' && c != 'r'

theorem opensApart_append {a : String} (h : opensApart a = true) (b : String) :
    opensApart (a ++ b) = true := by
  unfold opensApart at h ⊢
  rw [String.toList_append, List.head?_append]
  cases ha : a.toList.head? with
  | none => simp [ha] at h
  | some c => simpa [ha] using h

theorem isListing_of_opensApart {line : String} (h : opensApart line = true) :
    isListing k.package line = false := by
  unfold opensApart at h
  unfold isListing
  cases hline : line.toList with
  | nil => simp [hline] at h
  | cons c rest =>
    simp only [hline, List.head?_cons, Option.any_some, Bool.and_eq_true, bne_iff_ne] at h
    cases k with
    | timestamp => simp [Lossy.package, List.isPrefixOf, h.1.symm]
    | decimal => simp [Lossy.package, List.isPrefixOf, h.2.symm]

/-- All lines of the steps begin unlike the names of both packages. -/
def Quiet (steps : List Step) : Prop := ∀ line ∈ textsOf steps, opensApart line = true

theorem Quiet.lists_eq {steps : List Step} (h : Quiet steps) : lists steps k.package = false := by
  rw [lists, List.any_eq_false]
  intro line hline
  rw [isListing_of_opensApart (h line hline)]
  simp

section

variable {rest : List Step}

theorem quiet_nil : Quiet [] := by simp [Quiet, textsOf]

theorem quiet_append {as bs : List Step} : Quiet (as ++ bs) ↔ Quiet as ∧ Quiet bs := by
  rw [Quiet, textsOf_append, List.forall_mem_append, Quiet, Quiet]

theorem quiet_line {line : String} :
    Quiet (.line line :: rest) ↔ opensApart line = true ∧ Quiet rest := by
  rw [Quiet, textsOf, List.forall_mem_append, Quiet]
  simp [Step.texts]

theorem quiet_blank : Quiet (.blank :: rest) ↔ Quiet rest := Iff.rfl

theorem quiet_indent : Quiet (.indent :: rest) ↔ Quiet rest := Iff.rfl

theorem quiet_dedent : Quiet (.dedent :: rest) ↔ Quiet rest := Iff.rfl

theorem quiet_block {header : String} {body : List Step} :
    Quiet (.block header body :: rest) ↔
      opensApart (header ++ " " ++ openBrace) = true ∧ Quiet body ∧ Quiet rest := by
  rw [Quiet, textsOf, List.forall_mem_append, Step.texts, List.forall_mem_cons, Quiet, Quiet,
    and_assoc]

theorem quiet_map {α : Type} {f : α → Step} (h : ∀ x, Quiet [f x]) (xs : List α) :
    Quiet (xs.map f) := by
  induction xs with
  | nil => exact quiet_nil
  | cons x rest ih =>
    have hcons : (x :: rest).map f = [f x] ++ rest.map f := rfl
    rw [hcons, quiet_append]
    exact ⟨h x, ih⟩

end

/-- Of four groups of steps the outer two do not count. -/
theorem lists_between {as bs cs ds : List Step} (has : Quiet as) (hds : Quiet ds) :
    lists (as ++ bs ++ cs ++ ds) k.package = (lists bs k.package || lists cs k.package) := by
  simp only [lists_append, has.lists_eq, hds.lists_eq, Bool.false_or, Bool.or_false]

/-- A path stands in braces. -/
theorem isListing_path {crate : String} (hcrate : IsNamed crate) (more : String) :
    isListing k.package (crate ++ " = " ++ openBrace ++ more) = false := by
  rw [Bool.eq_false_iff]
  intro h
  have hlisting := List.isPrefixOf_iff_prefix.mp h
  have hpath : (crate ++ " = " ++ openBrace).toList <+:
      (crate ++ " = " ++ openBrace ++ more).toList := by simp
  rcases List.prefix_or_prefix_of_prefix hlisting hpath with hshort | hlong
  · have hquote : '"' ∈ (crate ++ " = " ++ openBrace).toList := hshort.subset (by simp)
    have hnot : '"' ∉ crate.toList := fun hmem => absurd (hcrate '"' hmem) (by decide)
    simp [hnot, openBrace] at hquote
  · have hbrace : '\x7b' ∈ (k.package ++ " = \"").toList := hlong.subset (by simp [openBrace])
    cases k <;> revert hbrace <;> decide

/-! ## Sections -/

theorem quiet_underlined {title : String} (h : opensApart title = true) :
    Quiet (underlined title) := by
  have hrule : opensApart (String.ofList (List.replicate title.length '-')) = true := by
    cases hlength : title.length with
    | zero =>
      rw [String.length_eq_zero_iff.mp hlength] at h
      cases h
    | succ n => simp [opensApart, List.replicate_succ]
  simp only [underlined, quiet_blank, quiet_line, h, hrule, true_and, quiet_nil]

theorem quiet_dependency {package : String} (h : opensApart package = true) {rest : List Step} :
    Quiet (dependency v package :: rest) ↔ Quiet rest := by
  have hline : ∃ more, dependency v package = .line (package ++ " = " ++ more) := by
    unfold dependency
    split_ifs with htokio
    · subst htokio
      exact ⟨_, rfl⟩
    · exact ⟨_, rfl⟩
  obtain ⟨more, hmore⟩ := hline
  simp [hmore, quiet_line, opensApart_append, h]

theorem lists_dependency (other : Lossy) (needed : Bool) :
    lists (if needed then [dependency v other.package] else []) k.package =
      (needed && k == other) := by
  cases needed with
  | false => rfl
  | true =>
    cases other <;> cases k <;>
      simp [lists, textsOf, dependency, Lossy.package, Step.texts, isListing, inQuotes, toString]
    all_goals rfl

/-- The packages that are always listed. -/
theorem opensApart_always :
    ∀ package ∈ ["prost", "tonic", "tonic-build", "async-trait", "tokio"],
      opensApart package = true := by decide

theorem sharedSection_lists :
    lists (sharedSection g s v) k.package = uses g k.type := by
  have hchrono : lists (if uses g .timestamp then [dependency v "chrono"] else []) k.package = _ :=
    lists_dependency .timestamp (uses g .timestamp)
  have hdecimal : lists (if uses g .decimal then [dependency v "rust_decimal"] else []) k.package =
    _ := lists_dependency .decimal (uses g .decimal)
  have hprost := opensApart_always "prost" (by simp)
  have htonic := opensApart_always "tonic" (by simp)
  have hbuild := opensApart_always "tonic-build" (by simp)
  have htitle : opensApart "Shared" = true := by decide
  unfold sharedSection
  rw [lists_between, hchrono, hdecimal]
  · cases k with
    | timestamp => simp [Lossy.type]
    | decimal => simp [Lossy.type]
  · simp only [quiet_append, quiet_underlined htitle, quiet_line, quiet_blank,
      quiet_dependency hprost, quiet_dependency htonic, quiet_nil]
    simp [opensApart, toString]
  · simp only [moduleLine, quiet_line, quiet_blank, quiet_block, quiet_dependency hbuild, quiet_nil]
    simp [opensApart, toString, mainSignature]

/-- The sections for the other two crates, down to the path of the shared one. -/
theorem lists_withPath (hcrate : IsNamed s.crates.sharedCrate) {title first : String}
    (htitle : opensApart title = true) (hfirst : opensApart first = true) {rest : List Step}
    (hrest : Quiet rest) : lists (underlined title ++ (.line first :: .blank ::
      .line "[dependencies]" :: sharedDependency s :: rest)) k.package = false := by
  have hlists : (textsOf rest).any (isListing k.package) = false := hrest.lists_eq
  have hdependencies : opensApart "[dependencies]" = true := by decide
  have hpath : isListing k.package (s.crates.sharedCrate ++ " = " ++
      inBraces (" path = " ++ inQuotes ("../" ++ s.crates.sharedCrate) ++ " ")) = false := by
    have hbrace := isListing_path (k := k) hcrate
      (" path = " ++ inQuotes ("../" ++ s.crates.sharedCrate) ++ " " ++ closeBrace)
    simpa only [inBraces, String.append_assoc] using hbrace
  rw [lists_append, (quiet_underlined htitle).lists_eq, Bool.false_or, lists]
  simp only [sharedDependency, textsOf, Step.texts, List.any_append, List.any_cons, List.any_nil,
    isListing_of_opensApart hfirst, isListing_of_opensApart hdependencies, hpath, hlists,
    Bool.or_false]

theorem serverSection_lists (hcrate : IsNamed s.crates.sharedCrate) :
    lists (serverSection g s v) k.package = false := by
  have hasync := opensApart_always "async-trait" (by simp)
  have htokio := opensApart_always "tokio" (by simp)
  have htonic := opensApart_always "tonic" (by simp)
  have hregistrations : Quiet (g.records.map (registration s)) := by
    apply quiet_map
    intro r
    simp [registration, quiet_line, quiet_nil, opensApart, toString]
  apply lists_withPath hcrate (by decide) (by decide)
  simp only [quiet_line, quiet_blank, quiet_block, quiet_append, quiet_indent, quiet_dedent,
    quiet_dependency hasync, quiet_dependency htokio, quiet_dependency htonic, hregistrations,
    quiet_nil]
  simp [opensApart, toString, mainSignature]

theorem clientSection_lists (hcrate : IsNamed s.crates.sharedCrate) :
    lists (clientSection g s v) k.package = false := by
  have htokio := opensApart_always "tokio" (by simp)
  have htonic := opensApart_always "tonic" (by simp)
  have hconnections : Quiet (g.records.map connection) := by
    apply quiet_map
    intro r
    simp [connection, quiet_line, quiet_nil, opensApart, toString]
  have hcall : Quiet (firstCall g s) := by
    unfold firstCall
    split
    · exact quiet_nil
    · split
      · exact quiet_nil
      · simp only [sampleCall, quiet_line, quiet_blank, quiet_nil]
        simp [opensApart, toString]
  rw [clientSection, lists_append, hcall.lists_eq, lists_append, hconnections.lists_eq,
    Bool.or_false, Bool.or_false]
  apply lists_withPath hcrate (by decide) (by decide)
  simp only [quiet_line, quiet_blank, quiet_dependency htokio, quiet_dependency htonic, quiet_nil]
  simp [opensApart]

/-- A package is listed if a field needs it. -/
theorem lists_steps (hcrate : IsNamed s.crates.sharedCrate) :
    lists (steps g s v) k.package = uses g k.type := by
  have hservices : Quiet (g.records.map fun r =>
      .line s!"Service: {r.serviceName} ({r.methods.length} methods)") := by
    apply quiet_map
    intro r
    simp [quiet_line, quiet_nil, opensApart, toString]
  have htitle : Quiet [.line "protowiz setup instructions", .line "===========================",
      .blank, .line s!"Proto package: {s.package}"] := by
    simp only [quiet_line, quiet_blank, quiet_nil]
    simp [opensApart, toString]
  unfold steps
  rw [lists_append, lists_append, lists_append, lists_append, htitle.lists_eq, hservices.lists_eq,
    sharedSection_lists, serverSection_lists hcrate, clientSection_lists hcrate]
  simp

end Instructions

/-! ## Agreement -/

variable {r : Registry} {s : Settings} {g : ServiceGraph}

/-- The converters that a generation stages, by their texts. -/
theorem mem_converters_iff {path text : String} : (path, ⟨.converter, text⟩) ∈ artifactsOf s g ↔
    ∃ m ∈ g.messages.toList, path = converterFile s m.name ∧
      text = (Module.ofMessage s m).render := by
  rw [mem_artifactsOf_iff (by simp)]
  simp [eq_comm]

/-- Instructions, imports and expressions agree on the types that lose something on the wire. -/
theorem packages_agree (h : check r s = .ok g) (v : PackageVersions) :
    (∀ k : Lossy, Instructions.lists (Instructions.steps g s v) k.package = true ↔
      ∃ m ∈ g.messages.toList, (Module.ofMessage s m).Converts k) ∧
    (Instructions.lists (Instructions.steps g s v) "rust_decimal" = true ↔
      ∃ path text, (path, ⟨.converter, text⟩) ∈ artifactsOf s g ∧ decimalLine ∈ imports text) ∧
    ∀ m ∈ g.messages.toList, decimalLine ∈ imports (Module.ofMessage s m).render ↔
      (Module.ofMessage s m).Converts .decimal := by
  obtain ⟨hs, hg⟩ := check_eq_ok_iff.mp h
  have hdiscovers := discovers_of_ok hg
  have hcrate : IsNamed s.crates.sharedCrate := isNamed_of_isIdentifier
    (Settings.crateNames_of_check hs ("shared_crate", s.crates.sharedCrate)
      (by simp [Settings.crateNames]))
  have hlists : ∀ k : Lossy, Instructions.lists (Instructions.steps g s v) k.package = true ↔
      ∃ m ∈ g.messages.toList, (Module.ofMessage s m).Converts k := by
    intro k
    rw [Instructions.lists_steps hcrate]
    exact hdiscovers.uses_iff
  have himports : ∀ m ∈ g.messages.toList, decimalLine ∈ imports (Module.ofMessage s m).render ↔
      (Module.ofMessage s m).Converts .decimal := fun m hm =>
    decimalLine_mem_imports (hdiscovers.spelled hs hm)
  refine ⟨hlists, ?_, himports⟩
  rw [show "rust_decimal" = Lossy.decimal.package from rfl, hlists]
  simp only [mem_converters_iff]
  constructor
  · rintro ⟨m, hm, hconverts⟩
    exact ⟨_, _, ⟨m, hm, rfl, rfl⟩, (himports m hm).mpr hconverts⟩
  · rintro ⟨_, _, ⟨m, hm, rfl, rfl⟩, himport⟩
    exact ⟨m, hm, (himports m hm).mp himport⟩

/-- A model that needs both packages. -/
def invoice : Model where
  name := "Invoice"
  fields := [{ name := "amounts", type := .list .decimal, nullable := true },
    { name := "paid_at", type := .timestamp }]

theorem packages_agree_invoice : ∃ g, check (echoing invoice "Billing" "BillingApi") {} = .ok g ∧
    (∀ v, Instructions.lists (Instructions.steps g {} v) "rust_decimal" = true) ∧
    ∃ path text, (path, ⟨.converter, text⟩) ∈ artifactsOf {} g ∧ decimalLine ∈ imports text := by
  obtain ⟨g, hg, hmessages, -⟩ := exists_discover_echoing invoice "Billing" "BillingApi" (by decide)
    (by decide +kernel) (by decide) rfl (by decide) (by decide +kernel)
  have hok : check (echoing invoice "Billing" "BillingApi") {} = .ok g :=
    check_eq_ok_iff.mpr ⟨Settings.check_default, hg⟩
  have hlisted : ∀ v, Instructions.lists (Instructions.steps g {} v) "rust_decimal" = true := by
    intro v
    refine ((packages_agree hok v).1 .decimal).mpr ⟨_, hmessages ▸ List.mem_singleton_self _, ?_⟩
    exact converts_ofMessage.mpr (by decide)
  exact ⟨g, hok, hlisted, ((packages_agree hok {}).2.1).mp (hlisted _)⟩

end RpcScaffold
