import Mathlib.Data.List.Rotate
import RpcScaffold.Proofs.Naming.Recasing

/-!
# What every case of a name has in common

A change of case moves the borders of words and keeps their letters and digits. Two names that are
made of a declared name can only be the same if their other parts leave the same letters and digits.
-/

namespace RpcScaffold.Text

/-- The letters and digits of an ASCII text, in lower case. -/
def alphanumerics (s : String) : List Char := (s.toList.filter isAlphanumeric).map Char.toLower

theorem alphanumerics_append (s t : String) :
    alphanumerics (s ++ t) = alphanumerics s ++ alphanumerics t := by
  simp [alphanumerics]

theorem alphanumerics_eq_nil {s : String} :
    alphanumerics s = [] ↔ ∀ c ∈ s.toList, isAlphanumeric c = false := by
  simp [alphanumerics]

theorem toLower_toLower {c : Char} (h : isAscii c = true) : c.toLower.toLower = c.toLower :=
  forall_ascii (P := fun c => c.toLower.toLower = c.toLower) (by decide) h

theorem toLower_toUpper {c : Char} (h : isAscii c = true) : c.toUpper.toLower = c.toLower :=
  forall_ascii (P := fun c => c.toUpper.toLower = c.toLower) (by decide) h

/-! ## Changes of case -/

section

variable {name : String} (hascii : ∀ c ∈ name.toList, isAscii c = true)
include hascii

theorem hasRegularLetters_of_ascii : HasRegularLetters name :=
  hasRegularLetters_of_isAscii (List.all_eq_true.mpr hascii)

/-- A form of each word with its letters gives a text with the letters of the name. -/
theorem map_toLower_flatMap {form : List Char → List Char}
    (hform : ∀ w, w ≠ [] → (∀ c ∈ w, isAscii c = true) →
      (form w).map Char.toLower = w.map Char.toLower) :
    (((words name.toList).map form).flatten).map Char.toLower = alphanumerics name := by
  have hwords : ∀ w ∈ words name.toList, (form w).map Char.toLower = w.map Char.toLower :=
    fun w hw => hform w (ne_nil_of_mem_words hw) (words_ascii hascii w hw)
  rw [alphanumerics, ← words_flatten, List.map_flatten, List.map_flatten, List.map_map]
  congr 1
  exact List.map_congr_left hwords

theorem alphanumerics_snakeCase : alphanumerics (snakeCase name) = alphanumerics name := by
  have hjoinable := areJoinable_of_regular (hasRegularLetters_of_ascii hascii)
  rw [alphanumerics, snakeCase, String.toList_ofList, ← words_flatten, hjoinable.words]
  apply map_toLower_flatMap hascii
  intro w _ hw
  rw [lowerWord_ascii hw, List.map_map]
  exact List.map_congr_left fun c hc => toLower_toLower (hw c hc)

theorem alphanumerics_upperCamel : alphanumerics (upperCamel name) = alphanumerics name := by
  have hcamel := isCamelChar_upperCamel (hasRegularLetters_of_ascii hascii)
  rw [alphanumerics, List.filter_eq_self.mpr fun c hc => (hcamel c hc).isAlphanumeric,
    toList_upperCamel, capitalWords]
  apply map_toLower_flatMap hascii
  intro w hne hw
  obtain ⟨c, rest, rfl⟩ := List.exists_cons_of_ne_nil hne
  rw [capitalWord_ascii hw, List.map_cons, List.map_cons, toLower_toUpper (hw c (by simp)),
    List.map_map]
  congr 1
  exact List.map_congr_left fun c hc => toLower_toLower (hw c (by simp [hc]))

end

/-! ## Prefixes -/

/-- Marks in front of a text start no word. -/
theorem words_append_of_marks {marks : List Char} (h : ∀ c ∈ marks, isAlphanumeric c = false)
    (cs : List Char) : words (marks ++ cs) = words cs := by
  induction marks with
  | nil => rfl
  | cons c rest ih =>
    obtain ⟨hc, hrest⟩ := List.forall_mem_cons.mp h
    rw [List.cons_append, words, split_cons_of_pos (by simp [hc]), List.flatMap_cons]
    exact ih hrest

/-- Two texts that commute around a third are rotations of each other. -/
theorem isRotated_of_append_eq {α : Type} {p q x : List α} (h : p ++ x = x ++ q) :
    p.IsRotated q := by
  induction hn : x.length using Nat.strong_induction_on generalizing x with
  | _ n ih =>
    rcases List.append_eq_append_iff.mp h with ⟨y, rfl, hx⟩ | ⟨y, rfl, rfl⟩
    · -- `x` starts with `p`, so the same holds of the rest of `x`.
      cases p with
      | nil => simpa using hx
      | cons c p =>
        have hshorter : y.length < n := by
          rw [← hn, List.length_append, List.length_cons]
          omega
        exact ih y.length hshorter hx rfl
    · exact List.isRotated_append

end RpcScaffold.Text
