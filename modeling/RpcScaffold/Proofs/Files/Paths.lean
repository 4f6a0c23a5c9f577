import RpcScaffold.Files.Node
import RpcScaffold.Proofs.Naming.Words

/-!
# Where paths lead

Where no links are, the place that a path leads to can be read off its pieces.
-/

namespace RpcScaffold.Path

open Text

/-! ## Pieces -/

/-- The text can be the name of an entry of a directory. -/
def IsName (name : String) : Prop := name ≠ "" ∧ name ≠ "." ∧ name ≠ ".." ∧ '/' ∉ name.toList

instance (name : String) : Decidable (IsName name) := inferInstanceAs (Decidable (_ ∧ _))

/-- Pieces that name nothing are passed over. -/
def IsIdle (piece : String) : Prop := piece = "" ∨ piece = "."

instance (piece : String) : Decidable (IsIdle piece) := inferInstanceAs (Decidable (_ ∨ _))

theorem pieces_append (a b : String) : pieces (a ++ "/" ++ b) = pieces a ++ pieces b := by
  have hchars : (a ++ "/" ++ b).toList = a.toList ++ '/' :: b.toList := by simp
  rw [pieces, hchars, split_append (by decide), List.map_append]
  rfl

theorem slash_not_mem_piece {path piece : String} (h : piece ∈ pieces path) :
    '/' ∉ piece.toList := by
  obtain ⟨cs, hcs, rfl⟩ := List.mem_map.mp h
  rw [String.toList_ofList]
  intro hslash
  have hflat : '/' ∈ (split (· == '/') path.toList).flatten :=
    List.mem_flatten.mpr ⟨cs, hcs, hslash⟩
  rw [split_flatten, List.mem_filter] at hflat
  exact absurd hflat.2 (by decide)

theorem pieces_of_not_mem {name : String} (h : '/' ∉ name.toList) : pieces name = [name] := by
  have hall : ∀ c ∈ name.toList, (c == '/') = false := by
    intro c hc
    rw [beq_eq_false_iff_ne]
    rintro rfl
    exact h hc
  rw [pieces, split_of_forall_neg hall, List.map_singleton, String.ofList_toList]

theorem pieces_intercalate {names : List String} (hne : names ≠ [])
    (h : ∀ name ∈ names, '/' ∉ name.toList) : pieces ("/".intercalate names) = names := by
  induction names with
  | nil => exact absurd rfl hne
  | cons first rest ih =>
    rw [List.forall_mem_cons] at h
    cases rest with
    | nil => exact pieces_of_not_mem h.1
    | cons second more =>
      rw [String.intercalate_cons_cons, pieces_append, pieces_of_not_mem h.1,
        ih (List.cons_ne_nil _ _) h.2]
      rfl

theorem pieces_ne_nil (path : String) : pieces path ≠ [] := by
  rw [pieces, ne_eq, List.map_eq_nil_iff]
  exact split_ne_nil _ _

theorem head?_pieces {path : String} (h : path ≠ "") :
    (pieces path).head? = some "" ↔ isAbsolute path = true := by
  have hne : path.toList ≠ [] := by rwa [ne_eq, String.toList_eq_nil_iff]
  rw [isAbsolute, pieces]
  cases hcs : path.toList with
  | nil => exact absurd hcs hne
  | cons c rest =>
    cases hc : (c == '/') with
    | true => simp [split_cons_of_pos (p := (· == '/')) hc, hc]
    | false =>
      obtain ⟨piece, more, hsplit⟩ := List.exists_cons_of_ne_nil (split_ne_nil (· == '/') rest)
      simp [split_cons_of_neg (p := (· == '/')) hc hsplit, hc]

theorem ne_empty_of_isAbsolute {path : String} (h : isAbsolute path = true) : path ≠ "" := by
  rintro rfl
  exact absurd h (by decide)

/-! ## The place of a path -/

/-- Where the pieces of a path lead from a place. -/
def locate (place : Place) : List String → Place
  | [] => place
  | piece :: rest =>
    if IsIdle piece then locate place rest
    else if piece = ".." then locate place.dropLast rest
    else locate (place ++ [piece]) rest

theorem locate_append (place : Place) (as bs : List String) :
    locate place (as ++ bs) = locate (locate place as) bs := by
  induction as generalizing place with
  | nil => rfl
  | cons piece rest ih =>
    simp only [List.cons_append, locate, ih]
    split_ifs <;> rfl

theorem locate_idle {place : Place} {idle : List String} (h : ∀ piece ∈ idle, IsIdle piece) :
    locate place idle = place := by
  induction idle with
  | nil => rfl
  | cons piece rest ih =>
    rw [List.forall_mem_cons] at h
    rw [locate, if_pos h.1, ih h.2]

theorem locate_name (place : Place) {name : String} (h : IsName name) (rest : List String) :
    locate place (name :: rest) = locate (place ++ [name]) rest := by
  have hidle : ¬ IsIdle name := by
    rw [IsIdle, not_or]
    exact ⟨h.1, h.2.1⟩
  rw [locate, if_neg hidle, if_neg h.2.2.1]

theorem locate_names (place : Place) {names : List String} (h : ∀ name ∈ names, IsName name) :
    locate place names = place ++ names := by
  induction names generalizing place with
  | nil => simp [locate]
  | cons name rest ih =>
    rw [List.forall_mem_cons] at h
    rw [locate_name place h.1, ih _ h.2, List.append_assoc, List.singleton_append]

/-- A path that never goes up stays below the place where it starts. -/
theorem prefix_locate (place : Place) {path : List String} (h : ".." ∉ path) :
    place <+: locate place path := by
  induction path generalizing place with
  | nil => exact List.prefix_rfl
  | cons piece rest ih =>
    rw [List.mem_cons, not_or] at h
    rw [locate]
    split_ifs with hidle hup
    · exact ih _ h.2
    · exact absurd hup.symm h.1
    · exact (List.prefix_append _ _).trans (ih _ h.2)

/-- The place of a path that starts at `start` if it does not start at the root. -/
def placeFrom (start : Place) (path : String) : Place :=
  locate (if isAbsolute path then [] else start) (pieces path)

/-! ## Joined paths -/

/-- The pieces of a joined path are those of its parts, but for an empty one between them. -/
theorem pieces_join {directory path : String} (hd : directory ≠ "")
    (hp : isAbsolute path = false) : ∃ front, pieces (join directory path) = front ++ pieces path ∧
      (pieces directory = front ∨ pieces directory = front ++ [""]) := by
  have hempty : directory.isEmpty = false := by simpa using hd
  rw [join, hp, hempty, Bool.or_self, if_neg (by decide)]
  split_ifs with hlast
  · obtain ⟨front, hfront⟩ : ∃ front, directory.toList = front ++ ['/'] := by
      have hsome : directory.toList.getLast? = some '/' := by simpa using hlast
      exact ⟨_, (List.dropLast_append_getLast? _ hsome).symm⟩
    have hdir : directory = String.ofList front ++ "/" := by
      rw [← String.toList_inj, hfront, String.toList_append, String.toList_ofList]
      rfl
    refine ⟨pieces (String.ofList front), ?_, .inr ?_⟩
    · rw [hdir, pieces_append]
    · have happend := pieces_append (String.ofList front) ""
      rwa [String.append_empty, ← hdir] at happend
  · exact ⟨pieces directory, pieces_append _ _, .inl rfl⟩

theorem isAbsolute_join {directory path : String} (hd : directory ≠ "")
    (hp : isAbsolute path = false) : isAbsolute (join directory path) = isAbsolute directory := by
  have hempty : directory.isEmpty = false := by simpa using hd
  have hne : directory.toList ≠ [] := by rwa [ne_eq, String.toList_eq_nil_iff]
  have hhead : ∀ more : String, isAbsolute (directory ++ more) = isAbsolute directory := by
    intro more
    rw [isAbsolute, isAbsolute, String.toList_append, List.head?_append_of_ne_nil _ hne]
  rw [join, hp, hempty, Bool.or_self, if_neg (by decide)]
  split_ifs
  · exact hhead path
  · rw [String.append_assoc]
    exact hhead _

theorem join_empty {path : String} : join "" path = path := by
  simp [join]

theorem placeFrom_empty (start : Place) : placeFrom start "" = start := by
  rw [placeFrom]
  rfl

theorem placeFrom_join (start : Place) (directory : String) {path : String}
    (hp : isAbsolute path = false) :
    placeFrom start (join directory path) = locate (placeFrom start directory) (pieces path) := by
  by_cases hd : directory = ""
  · rw [hd, join_empty, placeFrom_empty, placeFrom, hp]
    rfl
  · obtain ⟨front, hjoin, hfront⟩ := pieces_join hd hp
    rw [placeFrom, placeFrom, isAbsolute_join hd hp, hjoin, locate_append]
    rcases hfront with hfront | hfront
    · rw [hfront]
    · have hidle : ∀ piece ∈ [""], IsIdle piece := by simp [IsIdle]
      rw [hfront, locate_append, locate_idle hidle]

/-- A file that was found below a directory. -/
theorem placeFrom_found (start : Place) (directory : String) {names : List String}
    (hne : names ≠ []) (h : ∀ name ∈ names, IsName name) :
    placeFrom start (join directory ("/".intercalate names)) = placeFrom start directory ++ names := by
  have hpieces : pieces ("/".intercalate names) = names :=
    pieces_intercalate hne fun name hname => (h name hname).2.2.2
  have habsolute : isAbsolute ("/".intercalate names) = false := by
    rw [← Bool.not_eq_true]
    intro habs
    rw [← head?_pieces (ne_empty_of_isAbsolute habs), hpieces] at habs
    exact (h "" (List.mem_of_head? habs)).1 rfl
  rw [placeFrom_join start directory habsolute, hpieces, locate_names _ h]

/-! ## Paths that stay inside -/

theorem staysInside_iff {path : String} : staysInside path = true ↔
    (∃ first rest, pieces path = first :: rest ∧ ¬ IsIdle first) ∧ ".." ∉ pieces path := by
  rw [staysInside]
  cases hpieces : pieces path with
  | nil => simp
  | cons first rest =>
    simp only [IsIdle, Bool.and_eq_true, bne_iff_ne, List.all_eq_true]
    constructor
    · rintro ⟨⟨hempty, hdot⟩, hall⟩
      refine ⟨⟨first, rest, rfl, by simp [hempty, hdot]⟩, fun hmem => hall _ hmem rfl⟩
    · rintro ⟨⟨f, r, heq, hidle⟩, hall⟩
      obtain ⟨rfl, rfl⟩ := List.cons.inj heq
      rw [not_or] at hidle
      exact ⟨hidle, fun x hx hup => hall (hup ▸ hx)⟩

theorem not_isAbsolute {path : String} (h : staysInside path = true) :
    isAbsolute path = false := by
  rw [← Bool.not_eq_true]
  intro habs
  obtain ⟨⟨first, rest, hpieces, hidle⟩, -⟩ := staysInside_iff.mp h
  rw [← head?_pieces (ne_empty_of_isAbsolute habs), hpieces, List.head?_cons,
    Option.some.injEq] at habs
  exact hidle (.inl habs)

/-- Slashes at the end of a path add pieces to it and take none away. -/
theorem exists_pieces_trimmed (path : String) : ∃ more,
    pieces path = pieces (String.ofList (path.toList.reverse.dropWhile (· == '/')).reverse) ++ more := by
  have hpath : path.toList = (path.toList.reverse.dropWhile (· == '/')).reverse ++
      (path.toList.reverse.takeWhile (· == '/')).reverse := by
    rw [← List.reverse_append, List.takeWhile_append_dropWhile, List.reverse_reverse]
  have hslashes : ∀ c ∈ (path.toList.reverse.takeWhile (· == '/')).reverse, c = '/' := by
    intro c hc
    exact eq_of_beq (List.all_eq_true.mp List.all_takeWhile c (List.mem_reverse.mp hc))
  generalize (path.toList.reverse.dropWhile (· == '/')).reverse = trimmed at *
  generalize (path.toList.reverse.takeWhile (· == '/')).reverse = slashes at *
  cases slashes with
  | nil =>
    rw [List.append_nil] at hpath
    exact ⟨[], by rw [← hpath, String.ofList_toList, List.append_nil]⟩
  | cons c rest =>
    have heq : path = String.ofList trimmed ++ "/" ++ String.ofList rest := by
      rw [← String.toList_inj, hpath, hslashes c List.mem_cons_self]
      simp
    exact ⟨pieces (String.ofList rest), by rw [← pieces_append, ← heq]⟩

/-- Files of a directory inside stay inside, if their names never go up. -/
theorem staysInside_inDirectory {directory file : String} (hd : staysInside directory = true)
    (hf : ".." ∉ pieces file) : staysInside (inDirectory directory file) = true := by
  obtain ⟨⟨first, rest, hpieces, hidle⟩, hup⟩ := staysInside_iff.mp hd
  obtain ⟨more, hmore⟩ := exists_pieces_trimmed directory
  rw [inDirectory]
  generalize (directory.toList.reverse.dropWhile (· == '/')).reverse = trimmed at *
  rw [hmore] at hpieces hup
  rw [List.mem_append, not_or] at hup
  obtain ⟨first', rest', htrimmed⟩ := List.exists_cons_of_ne_nil (pieces_ne_nil (String.ofList trimmed))
  have hfirst : first' = first := by
    rw [htrimmed, List.cons_append] at hpieces
    exact (List.cons.inj hpieces).1
  have hne : trimmed.isEmpty = false := by
    rw [← Bool.not_eq_true, List.isEmpty_iff]
    rintro rfl
    have hempty : first' = "" := by
      rw [show pieces (String.ofList []) = [""] from rfl] at htrimmed
      exact (List.cons.inj htrimmed).1.symm
    exact hidle (.inl (hfirst.symm.trans hempty))
  rw [hne, if_neg (by decide), staysInside_iff, pieces_append, htrimmed]
  refine ⟨⟨first', rest' ++ pieces file, rfl, by rwa [hfirst]⟩, ?_⟩
  rw [← htrimmed, List.mem_append, not_or]
  exact ⟨hup.1, hf⟩

/-- The path ends in a name, but for pieces after it that name nothing. -/
def EndsInName (path : String) : Prop :=
  ∃ front name idle, pieces path = front ++ name :: idle ∧ IsName name ∧ ∀ d ∈ idle, IsIdle d

theorem exists_last {α : Type} (p : α → Prop) {xs : List α} (h : ∃ x ∈ xs, p x) :
    ∃ front x rest, xs = front ++ x :: rest ∧ p x ∧ ∀ y ∈ rest, ¬ p y := by
  induction xs with
  | nil => simp at h
  | cons first rest ih =>
    by_cases hrest : ∃ x ∈ rest, p x
    · obtain ⟨front, x, more, rfl, hx, hmore⟩ := ih hrest
      exact ⟨first :: front, x, more, rfl, hx, hmore⟩
    · obtain ⟨x, hx, hpx⟩ := h
      rcases List.mem_cons.mp hx with rfl | hx
      · exact ⟨[], x, rest, rfl, hpx, fun y hy hpy => hrest ⟨y, hy, hpy⟩⟩
      · exact absurd ⟨x, hx, hpx⟩ hrest

theorem endsInName_of_staysInside {path : String} (h : staysInside path = true) :
    EndsInName path := by
  obtain ⟨⟨first, rest, hpieces, hidle⟩, hup⟩ := staysInside_iff.mp h
  have hnamed : ∃ piece ∈ pieces path, ¬ IsIdle piece := ⟨first, by simp [hpieces], hidle⟩
  obtain ⟨front, name, idle, heq, hname, hrest⟩ := exists_last (¬ IsIdle ·) hnamed
  have hmem : name ∈ pieces path := by simp [heq]
  rw [IsIdle, not_or] at hname
  refine ⟨front, name, idle, heq, ⟨hname.1, hname.2, ?_, slash_not_mem_piece hmem⟩, ?_⟩
  · rintro rfl
    exact hup hmem
  · exact fun d hd => not_not.mp (hrest d hd)

theorem endsInName_join (directory : String) {path : String} (h : staysInside path = true) :
    EndsInName (join directory path) := by
  obtain ⟨front, name, idle, heq, hname, hidle⟩ := endsInName_of_staysInside h
  by_cases hd : directory = ""
  · rw [hd, join_empty]
    exact ⟨front, name, idle, heq, hname, hidle⟩
  · obtain ⟨first, hjoin, -⟩ := pieces_join hd (not_isAbsolute h)
    exact ⟨first ++ front, name, idle, by rw [hjoin, heq, List.append_assoc], hname, hidle⟩

/-! ## Temporary names -/

theorem trimPieces_cons {piece : String} {rest : List String} (h : rest ≠ []) :
    trimPieces (piece :: rest) = if IsIdle piece then trimPieces rest else piece :: rest := by
  cases rest with
  | nil => exact absurd rfl h
  | cons second more => rfl

theorem trimPieces_append {name : String} (h : ¬ IsIdle name) {idle : List String}
    (hidle : ∀ d ∈ idle, IsIdle d) (rest : List String) :
    trimPieces (idle ++ name :: rest) = name :: rest := by
  induction idle with
  | nil =>
    cases rest with
    | nil => rfl
    | cons piece more => exact if_neg h
  | cons d more ih =>
    rw [List.forall_mem_cons] at hidle
    rw [List.cons_append, trimPieces_cons (by simp), if_pos hidle.1, ih hidle.2]

theorem exists_trimPieces {reversed : List String} (h : reversed ≠ []) :
    trimPieces reversed ≠ [] ∧
      ∃ idle, reversed = idle ++ trimPieces reversed ∧ ∀ d ∈ idle, IsIdle d := by
  induction reversed with
  | nil => exact absurd rfl h
  | cons piece rest ih =>
    by_cases hrest : rest = []
    · rw [hrest]
      exact ⟨List.cons_ne_nil _ _, [], rfl, by simp⟩
    · rw [trimPieces_cons hrest]
      split_ifs with hidle
      · obtain ⟨hne, idle, heq, hall⟩ := ih hrest
        refine ⟨hne, piece :: idle, ?_, List.forall_mem_cons.mpr ⟨hidle, hall⟩⟩
        rw [List.cons_append, ← heq]
      · exact ⟨List.cons_ne_nil _ _, [], rfl, by simp⟩

theorem placeFrom_eq (start : Place) {path : String} (h : path ≠ "") :
    placeFrom start path =
      locate (if (pieces path).head? = some "" then [] else start) (pieces path) := by
  simp [placeFrom, head?_pieces h]

/-- The path of the pieces `front` leads where they lead. -/
theorem placeFrom_ofPieces (start : Place) {front : List String} (hne : front ≠ [])
    (h : ∀ piece ∈ front, '/' ∉ piece.toList) :
    placeFrom start (ofPieces (trimPieces front.reverse)) =
      locate (if front.head? = some "" then [] else start) front := by
  have hreversed : front.reverse ≠ [] := by simpa
  obtain ⟨htrim, idle, hidle, hall⟩ := exists_trimPieces hreversed
  generalize trimPieces front.reverse = trimmed at *
  have hfront : front = trimmed.reverse ++ idle.reverse := by
    rw [← List.reverse_reverse front, hidle, List.reverse_append]
  have hidle' : ∀ d ∈ idle.reverse, IsIdle d := fun d hd => hall d (List.mem_reverse.mp hd)
  have hhead : front.head? = trimmed.reverse.head? := by
    rw [hfront, List.head?_append_of_ne_nil _ (by simpa)]
  rw [hhead, hfront, locate_append, locate_idle hidle', ofPieces]
  by_cases hroot : trimmed = [""]
  · rw [if_pos hroot, hroot]
    rfl
  · have hslash : ∀ piece ∈ trimmed.reverse, '/' ∉ piece.toList := by
      intro piece hpiece
      exact h piece (by rw [hfront]; exact List.mem_append_left _ hpiece)
    have hpieces : pieces ("/".intercalate trimmed.reverse) = trimmed.reverse :=
      pieces_intercalate (by simpa) hslash
    have hpath : "/".intercalate trimmed.reverse ≠ "" := by
      intro hempty
      rw [hempty] at hpieces
      exact hroot (by rw [← List.reverse_reverse trimmed, ← hpieces]; rfl)
    rw [if_neg hroot, placeFrom_eq start hpath, hpieces]

/-- The directory of a file leads where the pieces before its name lead. -/
theorem exists_parent (start : Place) {path name : String} {front idle : List String}
    (hpieces : pieces path = front ++ name :: idle) (hname : IsName name)
    (htrim : trimPieces (pieces path).reverse = name :: front.reverse) :
    ∃ directory, parent? path = some directory ∧ placeFrom start directory =
      locate (if (pieces path).head? = some "" then [] else start) front := by
  rw [parent?, htrim, hpieces]
  cases front with
  | nil => exact ⟨"", by simp [hname.1], by simp [placeFrom_empty, locate, hname.1]⟩
  | cons first rest =>
    refine ⟨ofPieces (trimPieces (first :: rest).reverse), ?_, ?_⟩
    · obtain ⟨last, more, hrest⟩ : ∃ last more, (first :: rest).reverse = last :: more :=
        List.exists_cons_of_ne_nil (by simp)
      rw [hrest]
      simp
    · refine placeFrom_ofPieces start (List.cons_ne_nil _ _) ?_
      intro piece hpiece
      exact slash_not_mem_piece (by rw [hpieces]; exact List.mem_append_left _ hpiece)

theorem isName_temporary {name : String} (h : '/' ∉ name.toList) : IsName (name ++ ".tmp") := by
  have hlength : ∀ text : String, text.length < 4 → name ++ ".tmp" ≠ text := by
    intro text htext heq
    have hcount := congrArg String.length heq
    rw [String.length_append] at hcount
    have htmp : ".tmp".length = 4 := rfl
    omega
  exact ⟨hlength _ (by decide), hlength _ (by decide), hlength _ (by decide), by simp [h]⟩

theorem isAbsolute_of_isName {name : String} (h : IsName name) : isAbsolute name = false := by
  rw [← Bool.not_eq_true]
  intro habs
  rw [← head?_pieces h.1, pieces_of_not_mem h.2.2.2] at habs
  exact h.1 (Option.some.inj habs)

/-- The temporary file stands beside the file, under its name with `.tmp` behind it. -/
theorem placeFrom_temporary (start : Place) {path : String} (h : EndsInName path) :
    ∃ directory name, placeFrom start path = directory ++ [name] ∧
      placeFrom start (temporary path) = directory ++ [name ++ ".tmp"] := by
  obtain ⟨front, name, idle, hpieces, hname, hidle⟩ := h
  have hne : path ≠ "" := by
    rintro rfl
    have hmem : name ∈ pieces "" := by simp [hpieces]
    exact hname.1 (List.mem_singleton.mp hmem)
  have hnot : ¬ IsIdle name := by
    rw [IsIdle, not_or]
    exact ⟨hname.1, hname.2.1⟩
  have htrim : trimPieces (pieces path).reverse = name :: front.reverse := by
    rw [hpieces, List.reverse_append, List.reverse_cons, List.append_assoc, List.singleton_append]
    exact trimPieces_append hnot (fun d hd => hidle d (List.mem_reverse.mp hd)) _
  have hfile : fileName? path = some name := by
    rw [fileName?, htrim]
    simp [hname.1, hname.2.1, hname.2.2.1]
  obtain ⟨directory, hparent, hdirectory⟩ := exists_parent start hpieces hname htrim
  have htemporary := isName_temporary hname.2.2.2
  refine ⟨placeFrom start directory, name, ?_, ?_⟩
  · rw [placeFrom_eq start hne, hdirectory, hpieces, locate_append, locate_name _ hname,
      locate_idle hidle]
  · rw [temporary, hfile, hparent, Option.getD_some,
      placeFrom_join start directory (isAbsolute_of_isName htemporary),
      pieces_of_not_mem htemporary.2.2.2, locate_name _ htemporary]
    rfl

theorem placeFrom_temporary_ne (start : Place) {path : String} (h : EndsInName path) :
    placeFrom start (temporary path) ≠ placeFrom start path := by
  obtain ⟨directory, name, hplace, htemporary⟩ := placeFrom_temporary start h
  rw [hplace, htemporary]
  simp

end RpcScaffold.Path
