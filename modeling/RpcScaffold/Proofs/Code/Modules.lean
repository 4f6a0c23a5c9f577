import RpcScaffold.Proofs.Code.Lines

/-!
# The modules of an index

An index declares a module on a line of its own. What the other lines of it say does not matter here.
-/

namespace RpcScaffold.Code

open Text

/-- The name of the module that the line declares. -/
def declaredModule? (line : List Char) : Option String :=
  if "pub mod ".toList <+: line ∧ [';'] <:+ line then some (String.ofList (line.drop 8).dropLast)
  else none

/-- The modules that a text declares, in their order. -/
def declaredModules (text : String) : List String :=
  (split (· == '\n') text.toList).filterMap declaredModule?

/-! ## Lines -/

theorem declaredModule?_line (module : String) :
    declaredModule? ("pub mod " ++ module ++ ";").toList = some module := by
  have hline : ("pub mod " ++ module ++ ";").toList =
      "pub mod ".toList ++ (module.toList ++ [';']) := by simp
  have hdrop : ("pub mod ".toList ++ (module.toList ++ [';'])).drop 8 = module.toList ++ [';'] :=
    List.drop_left' (by decide)
  have hstart : "pub mod ".toList <+: "pub mod ".toList ++ (module.toList ++ [';']) :=
    List.prefix_append _ _
  have hend : [';'] <:+ "pub mod ".toList ++ (module.toList ++ [';']) :=
    (List.suffix_append _ _).trans (List.suffix_append _ _)
  rw [declaredModule?, hline, if_pos ⟨hstart, hend⟩, hdrop, List.dropLast_concat,
    String.ofList_toList]

theorem declaredModule?_eq_none {line : List Char} (h : ¬ "pub mod ".toList <+: line) :
    declaredModule? line = none := by
  rw [declaredModule?, if_neg fun hline => h hline.1]

theorem declaredModules_printed {lines : List String} (h : ∀ line ∈ lines, '\n' ∉ line.toList) :
    declaredModules (printed lines) = lines.filterMap fun line => declaredModule? line.toList := by
  have hlast : declaredModule? [] = none := rfl
  rw [declaredModules, split_printed h, List.filterMap_append, List.filterMap_map,
    List.filterMap_cons_none hlast, List.filterMap_nil, List.append_nil]
  rfl

/-! ## Files -/

theorem arePlain_modules (modules : List String) : arePlain (modules.map moduleLine) = true := by
  rw [arePlain_iff, List.forall_mem_map]
  intro module _
  have hvisible : isBlankText "pub mod " = false := by decide
  rw [moduleLine, Step.isPlain, isBlankText_append, isBlankText_append, hvisible]
  rfl

theorem linesOf_modules (modules : List String) :
    linesOf 0 (modules.map moduleLine) = modules.map fun module => "pub mod " ++ module ++ ";" := by
  rw [linesOf_eq, List.flatMap_map, List.map_eq_flatMap]
  simp [moduleLine, Step.lines, indentation]

/-- The steps behind the modules declare no further ones. -/
structure NoModules (rest : List Step) : Prop where
  plain : arePlain rest = true
  newline : ∀ line ∈ linesOf 0 rest, '\n' ∉ line.toList
  none : ∀ line ∈ linesOf 0 rest, declaredModule? line.toList = none

theorem NoModules.nil : NoModules [] := by
  constructor
  · rfl
  · simp [linesOf]
  · simp [linesOf]

section

variable {summary : String} (hsummary : summary ≠ "") (hnewline : '\n' ∉ summary.toList)
  (hreturn : '\r' ∉ summary.toList) {modules : List String} {rest : List Step}
  (hrest : NoModules rest)
include hsummary hnewline hreturn hrest

theorem render_modules : render ([fileDoc summary, .blank] ++ modules.map moduleLine ++ rest) =
    printed (["//! " ++ summary, "//!", "//! " ++ notice, ""] ++
      modules.map (fun module => "pub mod " ++ module ++ ";") ++ linesOf 0 rest) := by
  have hplain : arePlain (.blank :: (modules.map moduleLine ++ rest)) = true := by
    rw [arePlain_iff, List.forall_mem_cons, List.forall_mem_append, ← arePlain_iff, ← arePlain_iff]
    exact ⟨rfl, arePlain_modules modules, hrest.plain⟩
  have hlines : linesOf 0 (.blank :: (modules.map moduleLine ++ rest)) =
      "" :: (modules.map (fun module => "pub mod " ++ module ++ ";") ++ linesOf 0 rest) := by
    rw [← linesOf_modules, linesOf, linesOf_eq, linesOf_eq, linesOf_eq, List.flatMap_append]
    rfl
  have hfile : [fileDoc summary, .blank] ++ modules.map moduleLine ++ rest =
      fileDoc summary :: (.blank :: (modules.map moduleLine ++ rest)) := by simp
  rw [hfile, render_fileDoc hsummary hnewline hreturn hplain, hlines]
  simp

/-- A file that declares the modules behind its head. -/
theorem declaredModules_render (hmodules : ∀ module ∈ modules, '\n' ∉ module.toList) :
    declaredModules (render ([fileDoc summary, .blank] ++ modules.map moduleLine ++ rest)) =
      modules := by
  have hnewlines : ∀ line ∈ ["//! " ++ summary, "//!", "//! " ++ notice, ""] ++
      modules.map (fun module => "pub mod " ++ module ++ ";") ++ linesOf 0 rest,
      '\n' ∉ line.toList := by
    rw [List.forall_mem_append, List.forall_mem_append, List.forall_mem_map]
    refine ⟨⟨?_, ?_⟩, hrest.newline⟩
    · simp [notice, hnewline]
    · intro module hmodule
      simp [hmodules module hmodule]
  have hhead : ∀ line ∈ ["//! " ++ summary, "//!", "//! " ++ notice, ""],
      declaredModule? line.toList = none := by
    have hdoc : declaredModule? ("//! " ++ summary).toList = none :=
      declaredModule?_eq_none (by simp)
    rw [List.forall_mem_cons]
    exact ⟨hdoc, by decide⟩
  rw [render_modules hsummary hnewline hreturn hrest, declaredModules_printed hnewlines,
    List.filterMap_append, List.filterMap_append, List.filterMap_eq_nil_iff.mpr hhead,
    List.filterMap_eq_nil_iff.mpr hrest.none, List.filterMap_map, List.append_nil, List.nil_append]
  simp only [Function.comp_def, declaredModule?_line, List.filterMap_some]

end

end RpcScaffold.Code
