import RpcScaffold.Proofs.Files.Following

/-!
# What operations change

In a plain tree every operation that succeeds changes the places of its paths and no others, and
leaves the tree plain.
-/

namespace RpcScaffold.FileTree

open FileNode RpcScaffold.Path

variable {t t' t'' : FileTree}

/-! ## Trees with more directories -/

/-- The second tree is plain and has all directories of the first. -/
structure Extends (t t' : FileTree) : Prop where
  plain : t'.Plain
  start : t'.start = t.start
  directories : ∀ place, t.IsDirectory place → t'.IsDirectory place

theorem Plain.extends_self (h : t.Plain) : Extends t t := ⟨h, rfl, fun _ hdir => hdir⟩

theorem Extends.trans (h : Extends t t') (h' : Extends t' t'') : Extends t t'' :=
  ⟨h'.plain, h'.start.trans h.start, fun place hdir => h'.directories place (h.directories place hdir)⟩

theorem Extends.place (h : Extends t t') (path : String) : t'.place path = t.place path := by
  rw [FileTree.place, FileTree.place, h.start]

theorem Extends.base (h : Extends t t') (path : String) : t'.base path = t.base path := by
  rw [FileTree.base, FileTree.base, h.start]

theorem Extends.leads (h : Extends t t') {path : String} (hl : t.Leads path) : t'.Leads path :=
  ⟨hl.pieces, by rw [h.base]; exact hl.passable.mono h.directories⟩

theorem Extends.climbs (h : Extends t t') {path : String}
    (hc : t.Climbs (t.base path) (pieces path)) : t'.Climbs (t'.base path) (pieces path) := by
  rw [h.base]
  exact hc.mono h.directories

/-- A path that leads to a file, or to a directory above it, has led there as long as the file was
there. -/
theorem Extends.leads_of_file (h : Extends t t') {path : String}
    (hclimbs : t.Climbs (t.base path) (pieces path)) (hleads : t'.Leads path) {goal : Place}
    {content content' : ByteArray} (hnow : t'.file? goal = some content')
    (hold : t.file? goal = some content) (habove : t.place path <+: goal) : t.Leads path := by
  have hthere := hleads.passable
  rw [h.base] at hthere
  exact ⟨hleads.pieces, hthere.of_file hnow hold habove hclimbs⟩

/-! ## Changes at one place -/

theorem isName_locate {place : Place} (h : ∀ name ∈ place, IsName name) {path : List String}
    (hpath : ∀ piece ∈ path, '/' ∉ piece.toList) : ∀ name ∈ locate place path, IsName name := by
  induction path generalizing place with
  | nil => exact h
  | cons piece rest ih =>
    rw [List.forall_mem_cons] at hpath
    rw [locate]
    split_ifs with hidle hup
    · exact ih h hpath.2
    · exact ih (fun name hname => h name (List.dropLast_subset _ hname)) hpath.2
    · rw [IsIdle, not_or] at hidle
      refine ih ?_ hpath.2
      intro name hname
      rcases List.mem_append.mp hname with hname | hname
      · exact h name hname
      · rw [List.mem_singleton.mp hname]
        exact ⟨hidle.1, hidle.2, hup, hpath.1⟩

theorem Plain.isName_place (h : t.Plain) (path : String) : ∀ name ∈ t.place path, IsName name :=
  isName_locate (h.isName_of_isDirectory (isDirectory_base h path)) fun _ hpiece =>
    slash_not_mem_piece hpiece

/-- A place that is no directory's is that of an entry. -/
theorem Spot.Stands.exists_entry {goal : Place} {spot : Spot} (hs : spot.Stands t goal)
    (hnot : ¬ t.IsDirectory goal) : ∃ front name, goal = front ++ [name] ∧ t.IsDirectory front := by
  cases spot with
  | taken place node =>
    obtain ⟨-, hnode⟩ := hs
    obtain ⟨front, name, rfl⟩ : ∃ front name, goal = front ++ [name] := by
      induction goal using List.reverseRecOn with
      | nil => exact absurd isDirectory_root hnot
      | append_singleton front name => exact ⟨front, name, rfl⟩
    exact ⟨front, name, rfl, isDirectory_of_concat hnode⟩
  | free place name => exact ⟨place, name, hs.1.symm, hs.2.1⟩

/-- Nothing is lost when a file, an empty directory or nothing takes the place of what is no
directory. -/
theorem Plain.alter (h : t.Plain) {front : Place} {name : String} (hdir : t.IsDirectory front)
    (hnames : ∀ n ∈ front ++ [name], IsName n) (hnot : ¬ t.IsDirectory (front ++ [name]))
    (new : Option FileNode) (hbare : new.map bare = new)
    (hproper : ∀ node, new = some node → node.Proper false) :
    Extends t (t.alter (fun _ => new) (front ++ [name])) ∧
      (t.alter (fun _ => new) (front ++ [name])).shape =
        Function.update t.shape (front ++ [name]) new := by
  have hold : Childless (t.get? (front ++ [name])) := by
    cases hnode : t.get? (front ++ [name]) with
    | none => exact childless_none
    | some node =>
      cases node with
      | file content => exact childless_file content
      | link target => exact absurd hnode h.get?_ne_link
      | directory entries => exact absurd (shape_eq_directory.mpr ⟨entries, hnode⟩) hnot
  have hnew : Childless new := by
    cases new with
    | none => exact childless_none
    | some node =>
      cases node with
      | file content => exact childless_file content
      | link target =>
        cases hproper _ rfl with
        | link _ hfalse => cases hfalse
      | directory entries =>
        rw [← hbare]
        exact childless_directory
  have hshape := shape_alter (fun _ => new) hdir hold hnew
  rw [hbare] at hshape
  -- The only place that changed was no directory's.
  have hdirectories : ∀ place, t.IsDirectory place →
      (t.alter (fun _ => new) (front ++ [name])).IsDirectory place := by
    intro place hplace
    rw [IsDirectory, hshape, Function.update_of_ne]
    · exact hplace
    · rintro rfl
      exact hnot hplace
  have hstart : (t.alter (fun _ => new) (front ++ [name])).start = t.start := by
    cases front <;> rfl
  refine ⟨⟨⟨?_, ?_⟩, hstart, hdirectories⟩, hshape⟩
  · exact proper_alter h.proper (fun _ n hn => hproper n hn) (by simp) hnames
  · rw [hstart]
    exact hdirectories _ h.start

theorem Plain.alter_place (h : t.Plain) {path : String} {spot : Spot}
    (hs : spot.Stands t (t.place path)) (hnot : ¬ t.IsDirectory (t.place path))
    (new : Option FileNode) (hbare : new.map bare = new)
    (hproper : ∀ node, new = some node → node.Proper false) :
    Extends t (t.alter (fun _ => new) (t.place path)) ∧
      (t.alter (fun _ => new) (t.place path)).shape = Function.update t.shape (t.place path) new := by
  obtain ⟨front, name, hplace, hdir⟩ := hs.exists_entry hnot
  have hnames := h.isName_place path
  rw [hplace] at hnames hnot ⊢
  exact h.alter hdir hnames hnot new hbare hproper

theorem proper_file {content : ByteArray} :
    ∀ node, some (FileNode.file content) = some node → node.Proper false := by
  rintro node hnode
  rw [← Option.some.inj hnode]
  exact .file content

theorem not_isDirectory_of_file {place : Place} {content : ByteArray}
    (h : t.get? place = some (.file content)) : ¬ t.IsDirectory place :=
  not_isDirectory_of_file? (file?_eq_some.mpr h)

theorem not_isDirectory_of_none {place : Place} (h : t.get? place = none) :
    ¬ t.IsDirectory place := by
  simp [shape_eq_directory, h]

/-! ## Operations -/

theorem write_eq_ok (h : t.Plain) {path : String} {content : ByteArray}
    (hw : t.write path content = .ok t') : Extends t t' ∧
      t'.shape = Function.update t.shape (t.place path) (some (.file content)) := by
  obtain ⟨spot, hspot, hw⟩ := bind_eq_ok.mp hw
  obtain ⟨-, hs⟩ := resolve_eq_ok h hspot
  split at hw
  · have hs' := hs
    obtain ⟨rfl, hnode⟩ := hs
    rw [pure_eq_ok] at hw
    subst hw
    exact h.alter_place hs' (not_isDirectory_of_file hnode) _ rfl proper_file
  · cases hw
  · have hs' := hs
    obtain ⟨hplace, -, hnone⟩ := hs
    rw [pure_eq_ok] at hw
    subst hw
    rw [hplace]
    exact h.alter_place hs' (not_isDirectory_of_none hnone) _ rfl proper_file

theorem makeDirectory_eq_ok (h : t.Plain) {path : String} (hm : t.makeDirectory path = .ok t') :
    Extends t t' ∧ t.shape (t.place path) = none ∧
      t'.shape = Function.update t.shape (t.place path) (some (.directory [])) := by
  obtain ⟨spot, hspot, hm⟩ := bind_eq_ok.mp hm
  obtain ⟨-, hs⟩ := resolve_eq_ok h hspot
  split at hm
  · cases hm
  · have hs' := hs
    obtain ⟨hplace, -, hnone⟩ := hs
    rw [pure_eq_ok] at hm
    subst hm
    rw [hplace]
    have hproper : ∀ node, some (FileNode.directory []) = some node → node.Proper false := by
      rintro node hnode
      rw [← Option.some.inj hnode]
      exact .directory (by simp) (by simp)
    obtain ⟨hext, hshape⟩ := h.alter_place hs' (not_isDirectory_of_none hnone) _ rfl hproper
    exact ⟨hext, by rw [shape, hnone]; rfl, hshape⟩

theorem remove_eq_ok (h : t.Plain) {path : String} (hr : t.remove path = .ok t') :
    Extends t t' ∧ (∃ content, t.file? (t.place path) = some content) ∧
      t'.shape = Function.update t.shape (t.place path) none := by
  obtain ⟨spot, hspot, hr⟩ := bind_eq_ok.mp hr
  obtain ⟨-, hs⟩ := resolve_eq_ok h hspot
  cases spot with
  | free place name => cases hr
  | taken place node =>
    have hs' := hs
    obtain ⟨rfl, hnode⟩ := hs
    cases node with
    | directory entries => cases hr
    | link target => exact absurd hnode h.get?_ne_link
    | file content =>
      have hr' := pure_eq_ok.mp hr
      subst hr'
      obtain ⟨hext, hshape⟩ :=
        h.alter_place hs' (not_isDirectory_of_file hnode) none rfl (fun _ hnone => by cases hnone)
      exact ⟨hext, ⟨content, file?_eq_some.mpr hnode⟩, hshape⟩

theorem targetPlace_eq_ok (h : t.Plain) {path : String} {goal : Place}
    (hpath : piecesOf path = .ok (pieces path)) (hg : t.targetPlace (pieces path) = .ok goal) :
    t.Leads path ∧ goal = t.place path ∧ ¬ t.IsDirectory goal ∧
      ∃ front name, goal = front ++ [name] ∧ t.IsDirectory front := by
  obtain ⟨spot, hspot, hg⟩ := bind_eq_ok.mp hg
  obtain ⟨-, hg⟩ := throw_else_eq_ok.mp hg
  obtain ⟨hlength, hg⟩ := throw_else_eq_ok.mp hg
  -- A path with a `/` at its end was refused, so no piece was dropped.
  have hnamed : ((pieces path).reverse.dropWhile (· == "")).reverse = pieces path := by
    have hsuffix : (pieces path).reverse.dropWhile (· == "") <:+ (pieces path).reverse :=
      List.dropWhile_suffix _
    rw [List.reverse_eq_iff]
    refine hsuffix.eq_of_length_le ?_
    rw [List.length_reverse] at hlength
    rw [List.length_reverse]
    exact Nat.not_lt.mp hlength
  rw [hnamed] at hspot
  have hresolve : t.resolve .entry path = .ok spot := by
    rw [resolve, hpath]
    exact hspot
  obtain ⟨hleads, hs⟩ := resolve_eq_ok h hresolve
  have hgoal : goal = t.place path ∧ ¬ t.IsDirectory goal := by
    cases spot with
    | taken place node =>
      obtain ⟨rfl, hnode⟩ := hs
      cases node with
      | directory entries => cases hg
      | link target => exact absurd hnode h.get?_ne_link
      | file content =>
        have hg' := pure_eq_ok.mp hg
        subst hg'
        exact ⟨rfl, not_isDirectory_of_file hnode⟩
    | free place name =>
      obtain ⟨hplace, -, hnone⟩ := hs
      have hg' := pure_eq_ok.mp hg
      subst hg'
      rw [hplace]
      exact ⟨rfl, not_isDirectory_of_none hnone⟩
  obtain ⟨rfl, hnot⟩ := hgoal
  exact ⟨hleads, rfl, hnot, hs.exists_entry hnot⟩

theorem rename_eq_ok (h : t.Plain) {source target : String} (hr : t.rename source target = .ok t') :
    Extends t t' ∧ t.Leads target ∧ ∃ content, t.file? (t.place source) = some content ∧
      t'.shape = Function.update (Function.update t.shape (t.place source) none) (t.place target)
        (some (.file content)) := by
  obtain ⟨ps, hps, hr⟩ := bind_eq_ok.mp hr
  obtain ⟨rfl, -⟩ := piecesOf_eq_ok hps
  obtain ⟨spot, hspot, hr⟩ := bind_eq_ok.mp hr
  obtain ⟨-, hs⟩ := resolve_eq_ok h hspot
  cases spot with
  | free place name => cases hr
  | taken place node =>
    have hs' := hs
    obtain ⟨rfl, hnode⟩ := hs
    cases node with
    | directory entries => cases hr
    | link target => exact absurd hnode h.get?_ne_link
    | file content =>
      obtain ⟨goal, hgoal, hr⟩ := bind_eq_ok.mp hr
      have hr' := pure_eq_ok.mp hr
      subst hr'
      obtain ⟨hleads, rfl, hnot, front, name, hplace, hdir⟩ := targetPlace_eq_ok h hps hgoal
      obtain ⟨hext, hshape⟩ :=
        h.alter_place hs' (not_isDirectory_of_file hnode) none rfl (fun _ hnone => by cases hnone)
      have hnames := h.isName_place target
      have hnot' : ¬ (t.erase (t.place source)).IsDirectory (t.place target) := by
        intro hdir'
        rw [IsDirectory, erase, hshape, Function.update_apply] at hdir'
        split_ifs at hdir'
        exact hnot hdir'
      rw [hplace] at hnames hnot' ⊢
      obtain ⟨hext', hshape'⟩ := hext.plain.alter (hext.directories _ hdir) hnames hnot'
        (some (.file content)) rfl proper_file
      refine ⟨hext.trans hext', hleads, content, file?_eq_some.mpr hnode, ?_⟩
      rw [← hshape]
      exact hshape'

/-! ## Walks -/

theorem walk_eq_ok (h : t.Plain) {path : String} {found : List Found}
    (hw : t.walk path = .ok found) : t.Leads path ∧ ∃ node, t.get? (t.place path) = some node ∧
      found = ⟨[], path, node.kind⟩ ::
        node.descendants.map fun e => ⟨e.1, join path ("/".intercalate e.1), e.2.kind⟩ := by
  obtain ⟨spot, hspot, hw⟩ := bind_eq_ok.mp hw
  obtain ⟨hleads, hs⟩ := resolve_eq_ok h hspot
  cases spot with
  | free place name => cases hw
  | taken place node =>
    obtain ⟨rfl, hnode⟩ := hs
    refine ⟨hleads, node, hnode, ?_⟩
    cases node with
    | link target => exact absurd hnode h.get?_ne_link
    | file content => exact (pure_eq_ok.mp hw).symm
    | directory entries => exact (pure_eq_ok.mp hw).symm

/-- A walk finds what stands at and below the place of its path, and nothing else. -/
theorem mem_walk (h : t.Plain) {path : String} {found : List Found} (hw : t.walk path = .ok found) :
    (∀ f ∈ found, t.place path <+: t.place f.path ∧ t.place f.path = t.place path ++ f.names) ∧
      ∀ goal content, t.place path <+: goal → t.file? goal = some content →
        ∃ f ∈ found, f.kind = .file ∧ t.place f.path = goal := by
  obtain ⟨-, node, hnode, rfl⟩ := walk_eq_ok h hw
  have hproper := (h.proper.at? hnode).2.of_mem_descendants
  have hplace : ∀ e ∈ node.descendants,
      t.place (join path ("/".intercalate e.1)) = t.place path ++ e.1 := by
    intro e he
    obtain ⟨hne, hnames, -⟩ := hproper e he
    exact placeFrom_found t.start path hne hnames
  constructor
  · rw [List.forall_mem_cons]
    refine ⟨⟨List.prefix_rfl, (List.append_nil _).symm⟩, ?_⟩
    rw [List.forall_mem_map]
    intro e he
    rw [hplace e he]
    exact ⟨List.prefix_append _ _, rfl⟩
  · rintro _ content ⟨names, rfl⟩ hcontent
    rw [file?_eq_some, get?, at?_append] at hcontent
    have hchild : node.at? names = some (.file content) := by
      rw [← get?, hnode] at hcontent
      exact hcontent
    cases names with
    | nil =>
      obtain rfl : node = .file content := Option.some.inj hchild
      exact ⟨_, List.mem_cons_self, rfl, (List.append_nil _).symm⟩
    | cons name rest =>
      have hmem := mem_descendants_of_at? (List.cons_ne_nil _ _) hchild
      exact ⟨_, List.mem_cons_of_mem _ (List.mem_map_of_mem hmem), rfl, hplace _ hmem⟩

/-- A walk goes by names that can stand in a path. -/
theorem names_of_walk (h : t.Named) {path : String} {found : List Found}
    (hw : t.walk path = .ok found) : ∀ f ∈ found, ∀ name ∈ f.names, IsName name := by
  have hbelow : ∀ {node : FileNode} {kind : FileKind}, node.Proper true →
      found = ⟨[], path, kind⟩ :: node.descendants.map
        (fun e => ⟨e.1, Path.join path ("/".intercalate e.1), e.2.kind⟩) →
      ∀ f ∈ found, ∀ name ∈ f.names, IsName name := by
    rintro node kind hproper rfl
    rw [List.forall_mem_cons, List.forall_mem_map]
    exact ⟨by simp, fun e he => (hproper.of_mem_descendants e he).2.1⟩
  obtain ⟨spot, hspot, hw⟩ := bind_eq_ok.mp hw
  split at hw
  · cases hw
  · split at hw
    · next htarget => exact hbelow (proper_of_resolve h htarget) (pure_eq_ok.mp hw).symm
    · rw [← pure_eq_ok.mp hw]
      simp
  · exact hbelow (proper_of_resolve h hspot) (pure_eq_ok.mp hw).symm

end RpcScaffold.FileTree
