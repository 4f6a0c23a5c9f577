import RpcScaffold.Proofs.Generation.Stages
import RpcScaffold.Proofs.Naming.Words

/-! # Where the artifacts of a generation go -/

namespace RpcScaffold

open Text

/-! ## Files of a directory -/

theorem inDirectory_inj (directory : String) {a b : String}
    (h : Path.inDirectory directory a = Path.inDirectory directory b) : a = b := by
  simp only [Path.inDirectory] at h
  split_ifs at h
  · exact h
  · rwa [String.append_right_inj] at h

/-- A slash is put after a directory that does not end in one. -/
theorem inDirectory_eq {directory : String} {c : Char} (hlast : [c] <:+ directory.toList)
    (hc : c ≠ '/') (file : String) :
    Path.inDirectory directory file = directory ++ "/" ++ file := by
  obtain ⟨front, hfront⟩ := hlast
  have htrim : (directory.toList.reverse.dropWhile (· == '/')).reverse = directory.toList := by
    rw [← hfront, List.reverse_append, List.reverse_singleton, List.singleton_append,
      List.dropWhile_cons_of_neg (by simpa using hc)]
    simp
  have hnonempty : directory.toList.isEmpty = false := by simp [← hfront]
  simp only [Path.inDirectory, htrim, hnonempty, String.ofList_toList, Bool.false_eq_true, if_false]

theorem moduleFile_injective (directory : String) : Function.Injective (moduleFile directory) := by
  intro a b h
  have hfile := inDirectory_inj directory h
  rwa [String.append_left_inj] at hfile

/-- The files of the modules of a directory, and of its index. -/
def moduleFiles (directory : String) (modules : List String) : List String :=
  modules.map (moduleFile directory) ++ [indexFile directory]

theorem duplicate_append {x : String} {as bs : List String} (h : List.Disjoint as bs) :
    List.Duplicate x (as ++ bs) ↔ List.Duplicate x as ∨ List.Duplicate x bs := by
  simp only [List.duplicate_iff_two_le_count, List.count_append]
  by_cases ha : x ∈ as
  · have hb : List.count x bs = 0 := List.count_eq_zero.mpr fun hb => h ha hb
    omega
  · have ha : List.count x as = 0 := List.count_eq_zero.mpr ha
    omega

theorem duplicate_moduleFiles {directory path : String} {modules : List String}
    (h : "mod" ∉ modules) : List.Duplicate path (moduleFiles directory modules) ↔
      List.Duplicate path (modules.map (moduleFile directory)) := by
  have hdisjoint : List.Disjoint (modules.map (moduleFile directory)) [indexFile directory] := by
    rw [List.disjoint_singleton]
    intro hmem
    obtain ⟨module, hmodule, heq⟩ := List.mem_map.mp hmem
    have hmod : module = "mod" := moduleFile_injective directory heq
    rw [hmod] at hmodule
    exact h hmodule
  rw [moduleFiles, duplicate_append hdisjoint]
  constructor
  · rintro (hmodules | hindex)
    · exact hmodules
    · exact absurd hindex (List.not_duplicate_singleton _ _)
  · exact .inl

/-! ## Directories -/

/-- The path starts with the directory and a slash. -/
def StartsIn (directory path : String) : Prop := directory.toList ++ ['/'] <+: path.toList

theorem startsIn_of_mem_moduleFiles {directory path : String} {modules : List String} {c : Char}
    (hlast : [c] <:+ directory.toList) (hc : c ≠ '/') (h : path ∈ moduleFiles directory modules) :
    StartsIn directory path := by
  have hfile : ∃ file, path = Path.inDirectory directory file := by
    rcases List.mem_append.mp h with h | h
    · obtain ⟨module, -, rfl⟩ := List.mem_map.mp h
      exact ⟨_, rfl⟩
    · exact ⟨_, List.mem_singleton.mp h⟩
  obtain ⟨file, rfl⟩ := hfile
  rw [StartsIn, inDirectory_eq hlast hc, String.toList_append, String.toList_append]
  exact List.prefix_append _ _

theorem not_mem_moduleFiles {directory path : String} {modules : List String} {c : Char}
    (hlast : [c] <:+ directory.toList) (hc : c ≠ '/') (h : ¬ StartsIn directory path) :
    path ∉ moduleFiles directory modules := by
  intro hmem
  exact h (startsIn_of_mem_moduleFiles hlast hc hmem)

theorem disjoint_moduleFiles {dir dir' : String} {modules modules' : List String} {c c' : Char}
    (hlast : [c] <:+ dir.toList) (hc : c ≠ '/') (hlast' : [c'] <:+ dir'.toList) (hc' : c' ≠ '/')
    (h : ¬ dir.toList ++ ['/'] <+: dir'.toList ++ ['/'])
    (h' : ¬ dir'.toList ++ ['/'] <+: dir.toList ++ ['/']) :
    List.Disjoint (moduleFiles dir modules) (moduleFiles dir' modules') := by
  intro path hpath hpath'
  have hin := startsIn_of_mem_moduleFiles hlast hc hpath
  have hin' := startsIn_of_mem_moduleFiles hlast' hc' hpath'
  rcases List.prefix_or_prefix_of_prefix hin hin' with hpre | hpre
  · exact h hpre
  · exact h' hpre

/-! ## Modules -/

namespace ServiceGraph

def converterModules (g : ServiceGraph) : List String :=
  g.messages.names.map Naming.converterModule

def adapterModules (g : ServiceGraph) (n : Naming) : List String :=
  g.records.map fun record => Naming.moduleOf (n.adapterType record.shortName)

def proxyModules (g : ServiceGraph) : List String :=
  g.records.map fun record => Naming.moduleOf (Naming.proxyType record.shortName)

end ServiceGraph

theorem mod_not_mem {modules : List String} {c : Char} (hc : c ≠ 'd')
    (h : ∀ module ∈ modules, [c] <:+ module.toList) : "mod" ∉ modules := by
  intro hmem
  obtain ⟨front, hfront⟩ := h _ hmem
  have hlast := congrArg List.getLast? hfront
  rw [List.getLast?_concat] at hlast
  have hcd : some c = some 'd' := hlast
  exact hc (Option.some.inj hcd)

theorem moduleOf_suffix {front name : String} {c : Char} (hascii : isAscii c = true)
    (halnum : c.isAlphanum = true) (h : [c] <:+ name.toList) :
    [c.toLower] <:+ (Naming.moduleOf (front ++ name)).toList := by
  apply snakeCase_suffix hascii halnum
  rw [String.toList_append]
  exact h.trans (List.suffix_append _ _)

variable {r : Registry} {s : Settings} {g : ServiceGraph}

theorem mod_not_mem_converterModules : "mod" ∉ g.converterModules := by
  refine mod_not_mem (c := 'r') (by decide) ?_
  intro module hmodule
  obtain ⟨name, -, rfl⟩ := List.mem_map.mp hmodule
  rw [Naming.converterModule, String.toList_append]
  exact List.IsSuffix.trans (by decide) (List.suffix_append _ _)

theorem mod_not_mem_adapterModules (n : Naming) : "mod" ∉ g.adapterModules n := by
  refine mod_not_mem (c := 'e') (by decide) ?_
  intro module hmodule
  obtain ⟨record, -, rfl⟩ := List.mem_map.mp hmodule
  exact moduleOf_suffix (c := 'e') (by decide) (by decide) (by decide)

theorem mod_not_mem_proxyModules : "mod" ∉ g.proxyModules := by
  refine mod_not_mem (c := 't') (by decide) ?_
  intro module hmodule
  obtain ⟨record, -, rfl⟩ := List.mem_map.mp hmodule
  exact moduleOf_suffix (c := 't') (by decide) (by decide) (by decide)

theorem nodup_converterModules (h : Discovers r s.naming g) : g.converterModules.Nodup := by
  rw [ServiceGraph.converterModules]
  refine List.Nodup.map_on ?_ h.built.indexed.nodup
  intro a ha b hb heq
  have hmem : ∀ name ∈ g.messages.names, name ∈ r.names := by
    intro name hname
    exact h.declared (h.exposes_iff.mp hname)
  exact List.inj_on_of_nodup_map h.nodup_converterModules (hmem a ha) (hmem b hb) heq

/-! ## Artifacts -/

theorem paths_artifactsOf : (artifactsOf s g).map (·.1) =
    s.layout.schemaFile :: (moduleFiles s.layout.convertersDir g.converterModules ++
      moduleFiles s.layout.adaptersDir (g.adapterModules s.naming) ++
      moduleFiles s.layout.proxiesDir g.proxyModules) := by
  have hconverters : (converterArtifacts s g).map (·.1) =
      moduleFiles s.layout.convertersDir g.converterModules := by
    simp only [converterArtifacts, moduleFiles, ServiceGraph.converterModules, Catalog.names,
      List.map_append, List.map_map, List.map_cons, List.map_nil]
    rfl
  have hadapters : (adapterArtifacts s g).map (·.1) =
      moduleFiles s.layout.adaptersDir (g.adapterModules s.naming) := by
    simp only [adapterArtifacts, moduleFiles, ServiceGraph.adapterModules,
      List.map_append, List.map_map, List.map_cons, List.map_nil]
    rfl
  have hproxies : (proxyArtifacts s g).map (·.1) =
      moduleFiles s.layout.proxiesDir g.proxyModules := by
    simp only [proxyArtifacts, moduleFiles, ServiceGraph.proxyModules,
      List.map_append, List.map_map, List.map_cons, List.map_nil]
    rfl
  rw [artifactsOf, List.map_cons, List.map_append, List.map_append, hconverters, hadapters, hproxies]
  rfl

/-- In the default layout, files of different kinds never meet. -/
theorem files_apart {l : Layout} (hl : l = {}) (converters adapters proxies : List String) :
    l.schemaFile ∉ moduleFiles l.convertersDir converters ++ moduleFiles l.adaptersDir adapters ++
      moduleFiles l.proxiesDir proxies ∧
    List.Disjoint (moduleFiles l.convertersDir converters) (moduleFiles l.adaptersDir adapters) ∧
    List.Disjoint (moduleFiles l.convertersDir converters ++ moduleFiles l.adaptersDir adapters)
      (moduleFiles l.proxiesDir proxies) := by
  have hconverters : ['s'] <:+ l.convertersDir.toList := by rw [hl]; decide
  have hadapters : ['s'] <:+ l.adaptersDir.toList := by rw [hl]; decide
  have hproxies : ['s'] <:+ l.proxiesDir.toList := by rw [hl]; decide
  have hslash : 's' ≠ '/' := by decide
  refine ⟨?_, ?_, ?_⟩
  · rw [List.mem_append, List.mem_append, not_or, not_or]
    refine ⟨⟨?_, ?_⟩, ?_⟩
    · apply not_mem_moduleFiles hconverters hslash
      rw [StartsIn, hl]
      decide
    · apply not_mem_moduleFiles hadapters hslash
      rw [StartsIn, hl]
      decide
    · apply not_mem_moduleFiles hproxies hslash
      rw [StartsIn, hl]
      decide
  · refine disjoint_moduleFiles hconverters hslash hadapters hslash ?_ ?_ <;> rw [hl] <;> decide
  · rw [List.disjoint_append_left]
    constructor
    · refine disjoint_moduleFiles hconverters hslash hproxies hslash ?_ ?_ <;> rw [hl] <;> decide
    · refine disjoint_moduleFiles hadapters hslash hproxies hslash ?_ ?_ <;> rw [hl] <;> decide

/-- Two artifacts at one path are two adapters or two proxies. -/
theorem duplicate_paths (h : Discovers r s.naming g) (hs : s.layout = {}) (path : String) :
    List.Duplicate path ((artifactsOf s g).map (·.1)) ↔
      List.Duplicate path (g.records.map (adapterFile s)) ∨
      List.Duplicate path (g.records.map (proxyFile s)) := by
  obtain ⟨hschema, hapart, hproxies⟩ :=
    files_apart hs g.converterModules (g.adapterModules s.naming) g.proxyModules
  have hnodup :
      ¬ List.Duplicate path (g.converterModules.map (moduleFile s.layout.convertersDir)) :=
    List.nodup_iff_forall_not_duplicate.mp
      ((nodup_converterModules h).map (moduleFile_injective _)) path
  rw [paths_artifactsOf, List.duplicate_cons_iff,
    duplicate_append hproxies, duplicate_append hapart,
    duplicate_moduleFiles mod_not_mem_converterModules,
    duplicate_moduleFiles (mod_not_mem_adapterModules s.naming),
    duplicate_moduleFiles mod_not_mem_proxyModules,
    ServiceGraph.adapterModules, List.map_map, ServiceGraph.proxyModules, List.map_map]
  constructor
  · rintro (⟨rfl, hmem⟩ | (hdup | hdup) | hdup)
    · exact absurd hmem hschema
    · exact absurd hdup hnodup
    · exact .inl hdup
    · exact .inr hdup
  · rintro (hdup | hdup)
    · exact .inr (.inl (.inr hdup))
    · exact .inr (.inr hdup)

theorem nodup_paths (h : Discovers r s.naming g) (hs : s.layout = {}) :
    ((artifactsOf s g).map (·.1)).Nodup ↔
      (g.adapterModules s.naming).Nodup ∧ g.proxyModules.Nodup := by
  have hadapters : (g.adapterModules s.naming).Nodup ↔ (g.records.map (adapterFile s)).Nodup := by
    rw [← List.nodup_map_iff (moduleFile_injective s.layout.adaptersDir),
      ServiceGraph.adapterModules, List.map_map]
    rfl
  have hproxies : g.proxyModules.Nodup ↔ (g.records.map (proxyFile s)).Nodup := by
    rw [← List.nodup_map_iff (moduleFile_injective s.layout.proxiesDir),
      ServiceGraph.proxyModules, List.map_map]
    rfl
  rw [hadapters, hproxies]
  simp only [List.nodup_iff_forall_not_duplicate, duplicate_paths h hs, not_or, forall_and]

end RpcScaffold
