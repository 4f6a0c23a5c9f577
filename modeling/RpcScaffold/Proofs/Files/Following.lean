import RpcScaffold.Proofs.Files.Shape
import RpcScaffold.Proofs.Success

/-!
# Following paths

In a plain tree a path can be followed if all names on the way are names of directories, and then it
leads where its pieces lead.
-/

namespace RpcScaffold.FileTree

open FileNode RpcScaffold.Path

variable {t t' : FileTree}

/-! ## Pieces -/

/-- All names but a last one are those of directories, and none is too long. -/
def Passable (t : FileTree) (place : Place) : List String → Prop
  | [] => True
  | piece :: rest =>
    if IsIdle piece then t.Passable place rest
    else if piece = ".." then t.Passable place.dropLast rest
    else piece.utf8ByteSize ≤ maxName ∧ (rest ≠ [] → t.IsDirectory (place ++ [piece])) ∧
      t.Passable (place ++ [piece]) rest

theorem Passable.mono (h : ∀ place, t.IsDirectory place → t'.IsDirectory place) {place : Place}
    {path : List String} (hp : t.Passable place path) : t'.Passable place path := by
  induction path generalizing place with
  | nil => trivial
  | cons piece rest ih =>
    rw [Passable] at hp ⊢
    split_ifs at hp ⊢
    · exact ih hp
    · exact ih hp
    · exact ⟨hp.1, fun hrest => h _ (hp.2.1 hrest), ih hp.2.2⟩

/-- Every `..` of the path leaves a directory that is there. -/
def Climbs (t : FileTree) (place : Place) (path : List String) : Prop :=
  ∀ before after, path = before ++ ".." :: after →
    t.Passable place before ∧ t.IsDirectory (locate place before)

theorem Climbs.mono (h : ∀ place, t.IsDirectory place → t'.IsDirectory place) {place : Place}
    {path : List String} (hp : t.Climbs place path) : t'.Climbs place path := by
  intro before after heq
  obtain ⟨hpassable, hdir⟩ := hp before after heq
  exact ⟨hpassable.mono h, h _ hdir⟩

/-- A path that can be followed in one tree to a file, or to a directory above it, can be followed in
every tree that has the file and the directories that the path goes up from. -/
theorem Passable.of_file {place goal : Place} {path : List String} {content content' : ByteArray}
    (h' : t'.Passable place path) (hgoal' : t'.file? goal = some content')
    (hgoal : t.file? goal = some content) (habove : locate place path <+: goal)
    (hclimbs : t.Climbs place path) : t.Passable place path := by
  induction path generalizing place with
  | nil => trivial
  | cons piece rest ih =>
    have hclimbs' : ∀ before after, rest = before ++ ".." :: after →
        t.Passable place (piece :: before) ∧ t.IsDirectory (locate place (piece :: before)) := by
      intro before after heq
      exact hclimbs (piece :: before) after (by rw [heq, List.cons_append])
    rw [locate] at habove
    rw [Passable] at h' ⊢
    split_ifs at h' habove ⊢ with hidle hup
    · refine ih h' habove ?_
      intro before after heq
      simpa [Passable, locate, hidle] using hclimbs' before after heq
    · refine ih h' habove ?_
      intro before after heq
      obtain ⟨hpassable, hdir⟩ := hclimbs' before after heq
      rw [Passable, if_neg hidle, if_pos hup] at hpassable
      rw [locate, if_neg hidle, if_pos hup] at hdir
      exact ⟨hpassable, hdir⟩
    · have hname : ∀ before after, rest = before ++ ".." :: after →
          (before ≠ [] → t.IsDirectory (place ++ [piece])) ∧
          t.Passable (place ++ [piece]) before ∧ t.IsDirectory (locate (place ++ [piece]) before) := by
        intro before after heq
        obtain ⟨hpassable, hdir⟩ := hclimbs' before after heq
        rw [Passable, if_neg hidle, if_neg hup] at hpassable
        rw [locate, if_neg hidle, if_neg hup] at hdir
        exact ⟨hpassable.2.1, hpassable.2.2, hdir⟩
      refine ⟨h'.1, fun hrest => ?_, ih h'.2.2 habove fun b a heq => (hname b a heq).2⟩
      -- A later `..` leaves a directory below this one. Without one the goal is below this one.
      by_cases hmem : ".." ∈ rest
      · obtain ⟨before, after, heq⟩ := List.append_of_mem hmem
        obtain ⟨hdir, -, hlast⟩ := hname before after heq
        cases before with
        | nil => exact hlast
        | cons first more => exact hdir (List.cons_ne_nil _ _)
      · obtain ⟨more, hmore⟩ := (prefix_locate (place ++ [piece]) hmem).trans habove
        rw [file?_eq_some, ← hmore] at hgoal
        refine isDirectory_above ?_ hgoal
        rintro rfl
        rw [List.append_nil] at hmore
        exact not_isDirectory_of_file? hgoal' (hmore ▸ h'.2.1 hrest)

/-! ## Plain trees -/

theorem Plain.get?_ne_link (h : t.Plain) {place : Place} {target : String} :
    t.get? place ≠ some (.link target) := by
  intro hlink
  cases (h.proper.at? hlink).2 with
  | link _ hfalse => cases hfalse

theorem Plain.isName_of_isDirectory (h : t.Plain) {place : Place} (hdir : t.IsDirectory place) :
    ∀ name ∈ place, IsName name := by
  obtain ⟨entries, hentries⟩ := shape_eq_directory.mp hdir
  exact (h.proper.at? hentries).1

/-- What a path is found to lead to. -/
def Spot.Stands (t : FileTree) (goal : Place) : Spot → Prop
  | .taken place node => place = goal ∧ t.get? goal = some node
  | .free place name => place ++ [name] = goal ∧ t.IsDirectory place ∧ t.get? goal = none

variable {aim : Aim}

theorem tread_cons (t : FileTree) (aim : Aim)
    (through : Place → List String → Except FileFault Spot) (place : Place) (piece : String)
    (rest : List String) : t.tread aim through place (piece :: rest) =
      if IsIdle piece then t.tread aim through place rest
      else if piece = ".." then t.tread aim through place.dropLast rest
      else if aim = .creation ∧ rest ≠ [] ∧ rest.all (· = "") then .error .isDirectory
      else if maxName < piece.utf8ByteSize then .error .nameTooLong
      else
        match t.get? (place ++ [piece]) with
        | none => if rest = [] then .ok (.free place piece) else .error .notFound
        | some (.directory _) => t.tread aim through (place ++ [piece]) rest
        | some (.file content) =>
          if rest = [] then .ok (.taken (place ++ [piece]) (.file content)) else .error .notDirectory
        | some (.link target) =>
          if rest = [] ∧ aim = .entry then .ok (.taken (place ++ [piece]) (.link target))
          else through (if isAbsolute target then [] else place) (pieces target ++ rest) := rfl

theorem tread_eq_ok (h : t.Plain) {through : Place → List String → Except FileFault Spot}
    {place : Place} (hdir : t.IsDirectory place) {path : List String} {spot : Spot}
    (hspot : t.tread aim through place path = .ok spot) :
    t.Passable place path ∧ spot.Stands t (locate place path) := by
  induction path generalizing place with
  | nil =>
    obtain ⟨entries, hentries⟩ := shape_eq_directory.mp hdir
    rw [tread, hentries, Except.ok.injEq] at hspot
    subst hspot
    exact ⟨trivial, rfl, hentries⟩
  | cons piece rest ih =>
    rw [tread_cons] at hspot
    rw [Passable, locate]
    by_cases hidle : IsIdle piece
    · simp only [if_pos hidle] at hspot ⊢
      exact ih hdir hspot
    by_cases hup : piece = ".."
    · simp only [if_neg hidle, if_pos hup] at hspot ⊢
      exact ih hdir.dropLast hspot
    simp only [if_neg hidle, if_neg hup] at hspot ⊢
    obtain ⟨-, hspot⟩ := throw_else_eq_ok.mp hspot
    obtain ⟨hlong, hspot⟩ := throw_else_eq_ok.mp hspot
    rw [Nat.not_lt] at hlong
    cases hnext : t.get? (place ++ [piece]) with
    | none =>
      rw [hnext] at hspot
      dsimp only at hspot
      split_ifs at hspot with hrest
      rw [Except.ok.injEq] at hspot
      subst hspot hrest
      exact ⟨⟨hlong, fun h => absurd rfl h, trivial⟩, rfl, hdir, hnext⟩
    | some node =>
      rw [hnext] at hspot
      cases node with
      | directory entries =>
        have hdir' := shape_eq_directory.mpr ⟨entries, hnext⟩
        obtain ⟨hpassable, hstands⟩ := ih hdir' hspot
        exact ⟨⟨hlong, fun _ => hdir', hpassable⟩, hstands⟩
      | file content =>
        dsimp only at hspot
        split_ifs at hspot with hrest
        rw [Except.ok.injEq] at hspot
        subst hspot hrest
        exact ⟨⟨hlong, fun h => absurd rfl h, trivial⟩, rfl, hnext⟩
      | link target => exact absurd hnext h.get?_ne_link

theorem tread_of_passable (haim : aim ≠ .creation) (h : t.Plain)
    (through : Place → List String → Except FileFault Spot) {place : Place} {path : List String}
    (hpath : t.Passable place path) {node : FileNode}
    (hnode : t.get? (locate place path) = some node) :
    t.tread aim through place path = .ok (.taken (locate place path) node) := by
  induction path generalizing place with
  | nil =>
    rw [locate] at hnode
    rw [tread, hnode]
    rfl
  | cons piece rest ih =>
    rw [locate] at hnode ⊢
    rw [Passable] at hpath
    rw [tread_cons]
    by_cases hidle : IsIdle piece
    · simp only [if_pos hidle] at hnode hpath ⊢
      exact ih hpath hnode
    by_cases hup : piece = ".."
    · simp only [if_neg hidle, if_pos hup] at hnode hpath ⊢
      exact ih hpath hnode
    simp only [if_neg hidle, if_neg hup] at hnode hpath ⊢
    rw [if_neg (fun hc => haim hc.1), if_neg (Nat.not_lt.mpr hpath.1)]
    by_cases hrest : rest = []
    · subst hrest
      rw [locate] at hnode ⊢
      cases node with
      | directory entries => simp [hnode, tread]
      | file content => simp [hnode]
      | link target => exact absurd hnode h.get?_ne_link
    · obtain ⟨entries, hentries⟩ := shape_eq_directory.mp (hpath.2.1 hrest)
      rw [hentries]
      exact ih hpath.2.2 hnode

theorem exists_tread (t : FileTree) (aim : Aim) (links : Nat) :
    ∃ through, t.seek aim links = t.tread aim through := by
  cases links with
  | zero => exact ⟨_, rfl⟩
  | succ n => exact ⟨_, rfl⟩

/-! ## Paths -/

/-- Where a path starts. -/
def base (t : FileTree) (path : String) : Place := if isAbsolute path then [] else t.start

/-- The place of a path, where no links are. -/
def place (t : FileTree) (path : String) : Place := placeFrom t.start path

/-- The path can be followed, up to whatever stands at its end. -/
structure Leads (t : FileTree) (path : String) : Prop where
  pieces : piecesOf path = .ok (pieces path)
  passable : t.Passable (t.base path) (Path.pieces path)

theorem piecesOf_eq_ok {path : String} {ps : List String} (h : piecesOf path = .ok ps) :
    ps = pieces path ∧ path ≠ "" := by
  rw [piecesOf] at h
  split_ifs at h with hempty
  exact ⟨(Except.ok.inj h).symm, hempty⟩

theorem isDirectory_base (h : t.Plain) (path : String) : t.IsDirectory (t.base path) := by
  rw [base]
  split_ifs
  · exact isDirectory_root
  · exact h.start

theorem base_eq {path : String} (h : path ≠ "") :
    t.base path = if (pieces path).head? = some "" then [] else t.start := by
  simp [base, head?_pieces h]

theorem resolve_eq {path : String} (h : piecesOf path = .ok (pieces path)) :
    t.resolve aim path = t.seek aim maxLinks (t.base path) (pieces path) := by
  rw [base_eq (piecesOf_eq_ok h).2, resolve, h]
  rfl

theorem resolve_eq_ok (h : t.Plain) {path : String} {spot : Spot}
    (hspot : t.resolve aim path = .ok spot) : t.Leads path ∧ spot.Stands t (t.place path) := by
  obtain ⟨ps, hps, -⟩ := bind_eq_ok.mp hspot
  obtain ⟨rfl, -⟩ := piecesOf_eq_ok hps
  obtain ⟨through, hseek⟩ := exists_tread t aim maxLinks
  rw [resolve_eq hps, hseek] at hspot
  obtain ⟨hpassable, hstands⟩ := tread_eq_ok h (isDirectory_base h path) hspot
  exact ⟨⟨hps, hpassable⟩, hstands⟩

theorem Leads.resolve (hl : t.Leads path) (h : t.Plain) (haim : aim ≠ .creation) {node : FileNode}
    (hnode : t.get? (t.place path) = some node) :
    t.resolve aim path = .ok (.taken (t.place path) node) := by
  obtain ⟨through, hseek⟩ := exists_tread t aim maxLinks
  rw [resolve_eq hl.pieces, hseek]
  exact tread_of_passable haim h through hl.passable hnode

theorem kindAt_eq_some (h : t.Plain) {path : String} {kind : FileKind} :
    t.kindAt path = some kind ↔ t.Leads path ∧ (t.get? (t.place path)).map (·.kind) = some kind := by
  rw [kindAt]
  constructor
  · intro hkind
    split at hkind
    · next place node hspot =>
      obtain ⟨hleads, rfl, hnode⟩ := resolve_eq_ok h hspot
      exact ⟨hleads, by rwa [hnode]⟩
    · cases hkind
  · rintro ⟨hleads, hkind⟩
    obtain ⟨node, hnode, rfl⟩ := Option.map_eq_some_iff.mp hkind
    rw [hleads.resolve h (by decide) hnode]

theorem kindAt_eq_file (h : t.Plain) {path : String} :
    t.kindAt path = some .file ↔ t.Leads path ∧ ∃ content, t.file? (t.place path) = some content := by
  rw [kindAt_eq_some h, Option.map_eq_some_iff]
  refine and_congr_right fun _ => ?_
  simp only [file?_eq_some]
  constructor
  · rintro ⟨node, hnode, hkind⟩
    cases node with
    | file content => exact ⟨content, hnode⟩
    | link target => cases hkind
    | directory entries => cases hkind
  · rintro ⟨content, hcontent⟩
    exact ⟨_, hcontent, rfl⟩

theorem read_eq_ok (h : t.Plain) {path : String} {content : ByteArray} :
    t.read path = .ok content ↔ t.Leads path ∧ t.file? (t.place path) = some content := by
  rw [file?_eq_some, read]
  constructor
  · intro hread
    obtain ⟨spot, hspot, hread⟩ := bind_eq_ok.mp hread
    obtain ⟨hleads, hstands⟩ := resolve_eq_ok h hspot
    split at hread
    · obtain ⟨rfl, hnode⟩ := hstands
      rw [pure_eq_ok] at hread
      exact ⟨hleads, hread ▸ hnode⟩
    · cases hread
    · cases hread
  · rintro ⟨hleads, hnode⟩
    rw [hleads.resolve h (by decide) hnode]
    rfl

/-! ## Names -/

/-- Whatever a path leads to, the names below it can stand in a path. -/
theorem proper_of_tread {links : Bool} (h : t.root.Proper links) {aim : Aim}
    {through : Place → List String → Except FileFault Spot}
    (hthrough : ∀ place path goal node, through place path = .ok (.taken goal node) →
      node.Proper links) {place goal : Place} {path : List String} {node : FileNode}
    (hspot : t.tread aim through place path = .ok (.taken goal node)) : node.Proper links := by
  induction path generalizing place with
  | nil =>
    rw [tread, Except.ok.injEq, Spot.taken.injEq] at hspot
    obtain ⟨-, rfl⟩ := hspot
    cases hnode : t.get? place with
    | none => exact h
    | some node => exact (h.at? hnode).2
  | cons piece rest ih =>
    rw [tread_cons] at hspot
    by_cases hidle : IsIdle piece
    · rw [if_pos hidle] at hspot
      exact ih hspot
    by_cases hup : piece = ".."
    · rw [if_neg hidle, if_pos hup] at hspot
      exact ih hspot
    rw [if_neg hidle, if_neg hup] at hspot
    obtain ⟨-, hspot⟩ := throw_else_eq_ok.mp hspot
    obtain ⟨-, hspot⟩ := throw_else_eq_ok.mp hspot
    split at hspot
    · split_ifs at hspot
      cases hspot
    · exact ih hspot
    · split_ifs at hspot
      cases hspot
      exact .file _
    · next hlink =>
      split at hspot
      · cases hspot
        exact (h.at? hlink).2
      · exact hthrough _ _ _ _ hspot

theorem proper_of_seek {links : Bool} (h : t.root.Proper links) {aim : Aim} {n : Nat}
    {place goal : Place} {path : List String} {node : FileNode}
    (hspot : t.seek aim n place path = .ok (.taken goal node)) : node.Proper links := by
  induction n generalizing place path goal node with
  | zero => exact proper_of_tread h (fun _ _ _ _ hnone => by cases hnone) hspot
  | succ n ih => exact proper_of_tread h (fun _ _ _ _ hnext => ih hnext) hspot

theorem proper_of_resolve {links : Bool} (h : t.root.Proper links) {aim : Aim} {path : String}
    {goal : Place} {node : FileNode} (hspot : t.resolve aim path = .ok (.taken goal node)) :
    node.Proper links := by
  obtain ⟨_, -, hfollow⟩ := bind_eq_ok.mp hspot
  exact proper_of_seek h hfollow

/-! ## Roots -/

/-- Every `..` of the path leaves a directory that is there. -/
def Grounded (t : FileTree) (path : String) : Prop :=
  ∀ before after, pieces path = before ++ ".." :: after →
    ∃ place entries, t.follow .target before = .ok (.taken place (.directory entries))

theorem grounded_of_not_mem {path : String} (h : ".." ∉ pieces path) : t.Grounded path := by
  intro before after heq
  simp [heq] at h

theorem Grounded.climbs {path : String} (hg : t.Grounded path) (h : t.Plain) :
    t.Climbs (t.base path) (pieces path) := by
  intro before after heq
  obtain ⟨place, entries, hfollow⟩ := hg before after heq
  have hne : path ≠ "" := by
    rintro rfl
    have hmem : ".." ∈ pieces "" := by simp [heq]
    exact absurd hmem (by decide)
  have hbase : (if before.head? = some "" then [] else t.start) = t.base path := by
    rw [base_eq hne, heq]
    cases before with
    | nil => simp
    | cons first rest => rfl
  obtain ⟨through, hseek⟩ := exists_tread t .target maxLinks
  rw [follow, hbase, hseek] at hfollow
  obtain ⟨hpassable, rfl, hnode⟩ := tread_eq_ok h (isDirectory_base h path) hfollow
  exact ⟨hpassable, shape_eq_directory.mpr ⟨entries, hnode⟩⟩

theorem base_join {root : String} {path : String} (hp : isAbsolute path = false) :
    t.base (join root path) = t.base root := by
  by_cases hr : root = ""
  · rw [hr, join_empty, base, hp]
    rfl
  · rw [base, base, isAbsolute_join hr hp]

theorem Climbs.join {root path : String} (hc : t.Climbs (t.base root) (pieces root))
    (hp : staysInside path = true) :
    t.Climbs (t.base (Path.join root path)) (pieces (Path.join root path)) := by
  have hup := (staysInside_iff.mp hp).2
  have hrelative := not_isAbsolute hp
  rw [base_join hrelative]
  intro before after heq
  by_cases hr : root = ""
  · rw [hr, join_empty] at heq
    have hmem : ".." ∈ pieces path := by simp [heq]
    exact absurd hmem hup
  · obtain ⟨front, hjoin, hfront⟩ := pieces_join hr hrelative
    rw [hjoin] at heq
    obtain ⟨more, rfl, hmore⟩ | ⟨more, rfl, hmore⟩ := List.append_eq_append_iff.mp heq
    · have hmem : ".." ∈ pieces path := by simp [hmore]
      exact absurd hmem hup
    · cases more with
      | nil =>
        have hmem : ".." ∈ pieces path := by
          rw [List.nil_append] at hmore
          simp [← hmore]
        exact absurd hmem hup
      | cons first rest =>
        obtain ⟨rfl, -⟩ := List.cons.inj hmore
        rcases hfront with hfront | hfront
        · exact hc before rest hfront
        · exact hc before (rest ++ [""]) (by rw [hfront]; simp)

end RpcScaffold.FileTree
