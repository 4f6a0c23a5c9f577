/-! # Cutting a text at separators -/

namespace RpcScaffold.Text

/-- The text up to the first separator, and the pieces after it. -/
def cut (isSeparator : Char → Bool) (cs : List Char) : List Char × List (List Char) :=
  cs.foldr (fun c r => if isSeparator c then ([], r.1 :: r.2) else (c :: r.1, r.2)) ([], [])

/-- The pieces between separators. There is one more of them than there are separators. -/
def split (isSeparator : Char → Bool) (cs : List Char) : List (List Char) :=
  let r := cut isSeparator cs
  r.1 :: r.2

@[simp] theorem split_nil (p : Char → Bool) : split p [] = [[]] := rfl

theorem split_cons_of_pos {p : Char → Bool} {c : Char} (h : p c = true) (cs : List Char) :
    split p (c :: cs) = [] :: split p cs := by
  simp [split, cut, h]

theorem split_ne_nil (p : Char → Bool) (cs : List Char) : split p cs ≠ [] := by simp [split]

/-- The pieces, joined by `glue`. -/
def join (glue : List Char) (pieces : List (List Char)) : List Char := glue.intercalate pieces

end RpcScaffold.Text
