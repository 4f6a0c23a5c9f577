import Mathlib.Data.List.Induction
import Mathlib.Logic.Function.Basic
import RpcScaffold.Files.Tree
import RpcScaffold.Proofs.Files.Paths

/-!
# What stands where in a tree

The shape of a tree says of every place what stands there. A change at one place leaves the shape as
it was everywhere else.
-/

namespace RpcScaffold

namespace FileNode

/-! ## Nodes -/

/-- The node without what stands in it. -/
def bare : FileNode → FileNode
  | directory _ => directory []
  | file content => file content
  | link target => link target

@[simp] theorem bare_eq_directory {node : FileNode} :
    node.bare = directory [] ↔ ∃ entries, node = directory entries := by
  cases node <;> simp [bare]

@[simp] theorem bare_eq_file {node : FileNode} {content : ByteArray} :
    node.bare = file content ↔ node = file content := by
  cases node <;> simp [bare]

@[simp] theorem bare_eq_link {node : FileNode} {target : String} :
    node.bare = link target ↔ node = link target := by
  cases node <;> simp [bare]

/-- What stands in a file. -/
def content? : FileNode → Option ByteArray
  | file content => some content
  | link _ | directory _ => none

theorem content?_eq_some {node : FileNode} {content : ByteArray} :
    node.content? = some content ↔ node = file content := by
  cases node <;> simp [content?]

/-- Nothing stands below it. -/
def Childless (o : Option FileNode) : Prop := ∀ name rest, o.bind (at? (name :: rest)) = none

theorem childless_none : Childless none := fun _ _ => rfl

theorem childless_file (content : ByteArray) : Childless (some (file content)) := fun _ _ => rfl

theorem childless_directory : Childless (some (directory [])) := fun _ _ => rfl

theorem at?_append (front rest : Place) (node : FileNode) :
    at? (front ++ rest) node = (at? front node).bind (at? rest) := by
  induction front generalizing node with
  | nil => rfl
  | cons name more ih =>
    simp only [List.cons_append, at?, Option.bind_assoc]
    congr 1
    funext child
    exact ih child

theorem lookup_setEntry (name key : String) (node : Option FileNode)
    (entries : List (String × FileNode)) :
    (setEntry name node entries).lookup key = if key = name then node else entries.lookup key := by
  cases node with
  | some node => exact lookup_insertEntry name key node entries
  | none =>
    rw [setEntry]
    induction entries with
    | nil => simp
    | cons e rest ih =>
      by_cases he : e.1 = name
      · rw [List.filter_cons_of_neg (by simp [he]), ih]
        split_ifs with hkey
        · rfl
        · rw [List.lookup_cons, beq_eq_false_iff_ne.mpr (he ▸ hkey)]
      · rw [List.filter_cons_of_pos (by simpa using he), List.lookup_cons, List.lookup_cons, ih]
        cases hkey : key == e.1 with
        | true => simp [eq_of_beq hkey, he]
        | false => rfl

theorem at?_setEntry (name : String) (node : Option FileNode) (entries : List (String × FileNode))
    (key : String) (rest : Place) :
    at? (key :: rest) (directory (setEntry name node entries)) =
      if key = name then node.bind (at? rest) else at? (key :: rest) (directory entries) := by
  simp only [at?, child?, lookup_setEntry]
  split_ifs <;> rfl

/-- Where a change at one place shows. -/
theorem bare_at?_alter (change : Option FileNode → Option FileNode) {front : Place} {name : String}
    {o : Option FileNode} {entries : List (String × FileNode)}
    (hdir : o.bind (at? front) = some (directory entries)) (hold : Childless (entries.lookup name))
    (hnew : Childless (change (entries.lookup name))) (place : Place) :
    ((alter change (front ++ [name]) o).bind (at? place)).map bare =
      if place = front ++ [name] then (change (entries.lookup name)).map bare
      else (o.bind (at? place)).map bare := by
  obtain ⟨node, rfl⟩ : ∃ node, o = some node := by
    cases o with
    | none => cases hdir
    | some node => exact ⟨node, rfl⟩
  rw [Option.bind_some] at hdir
  induction front generalizing node place with
  | nil =>
    obtain rfl : node = directory entries := Option.some.inj hdir
    rw [List.nil_append, alter, alter]
    cases place with
    | nil => rfl
    | cons key rest =>
      rw [Option.bind_some, at?_setEntry]
      cases rest with
      | nil => by_cases hkey : key = name <;> simp [hkey, at?]
      | cons second more =>
        -- Nothing stands below the changed place, neither before nor after.
        by_cases hkey : key = name
        · have hbelow : at? (name :: second :: more) (directory entries) = none := hold second more
          simp only [hkey, if_true, hnew second more, Option.bind_some, hbelow]
          rw [if_neg (by simp)]
        · simp [hkey]
  | cons first more ih =>
    rw [at?, Option.bind_eq_some_iff] at hdir
    obtain ⟨child, hchild, hmore⟩ := hdir
    cases node with
    | file content => cases hchild
    | link target => cases hchild
    | directory siblings =>
      rw [child?] at hchild
      rw [List.cons_append, alter, hchild]
      cases place with
      | nil => rfl
      | cons key rest =>
        rw [Option.bind_some, at?_setEntry]
        by_cases hkey : key = first
        · rw [if_pos hkey, ih rest child hmore, hkey]
          simp [at?, child?, hchild]
        · simp [hkey]

/-! ## Names and links -/

/-- All names below the node can stand in a path, and links are there only if they are allowed. -/
inductive Proper (links : Bool) : FileNode → Prop
  | file (content : ByteArray) : Proper links (file content)
  | link (target : String) (h : links = true) : Proper links (link target)
  | directory {entries : List (String × FileNode)} (names : ∀ e ∈ entries, Path.IsName e.1)
      (nodes : ∀ e ∈ entries, Proper links e.2) : Proper links (directory entries)

variable {links : Bool}

theorem Proper.of_lookup {entries : List (String × FileNode)} (h : Proper links (.directory entries))
    {name : String} {node : FileNode} (hnode : entries.lookup name = some node) :
    Path.IsName name ∧ node.Proper links := by
  obtain ⟨front, rest, rfl, -⟩ := List.lookup_eq_some_iff.mp hnode
  have hmem : (name, node) ∈ front ++ (name, node) :: rest := by simp
  cases h with
  | directory names nodes => exact ⟨names _ hmem, nodes _ hmem⟩

theorem Proper.at? {node : FileNode} (h : node.Proper links) {place : Place} {child : FileNode}
    (hchild : node.at? place = some child) :
    (∀ name ∈ place, Path.IsName name) ∧ child.Proper links := by
  induction place generalizing node with
  | nil =>
    obtain rfl : node = child := Option.some.inj hchild
    exact ⟨by simp, h⟩
  | cons name rest ih =>
    rw [FileNode.at?, Option.bind_eq_some_iff] at hchild
    obtain ⟨next, hnext, hrest⟩ := hchild
    cases node with
    | file content => cases hnext
    | link target => cases hnext
    | directory entries =>
      obtain ⟨hname, hproper⟩ := h.of_lookup hnext
      obtain ⟨hnames, hchild⟩ := ih hproper hrest
      exact ⟨List.forall_mem_cons.mpr ⟨hname, hnames⟩, hchild⟩

theorem Proper.setEntry {entries : List (String × FileNode)} (h : Proper links (.directory entries))
    {name : String} (hname : Path.IsName name) {node : Option FileNode}
    (hnode : ∀ n, node = some n → n.Proper links) :
    Proper links (.directory (FileNode.setEntry name node entries)) := by
  cases h with
  | directory names nodes =>
    have hmem : ∀ e ∈ FileNode.setEntry name node entries,
        (e.1 = name ∧ node = some e.2) ∨ e ∈ entries := by
      intro e he
      cases node with
      | none => exact .inr (List.mem_of_mem_filter he)
      | some n =>
        rcases mem_insertEntry he with rfl | he
        · exact .inl ⟨rfl, rfl⟩
        · exact .inr he
    constructor
    · intro e he
      rcases hmem e he with ⟨heq, -⟩ | he
      · rwa [heq]
      · exact names e he
    · intro e he
      rcases hmem e he with ⟨-, heq⟩ | he
      · exact hnode _ heq
      · exact nodes e he

theorem Proper.alter {change : Option FileNode → Option FileNode}
    (hchange : ∀ o n, change o = some n → n.Proper links) {place : Place}
    (hplace : ∀ name ∈ place, Path.IsName name) {o : Option FileNode}
    (ho : ∀ n, o = some n → n.Proper links) :
    ∀ n, FileNode.alter change place o = some n → n.Proper links := by
  induction place generalizing o with
  | nil => exact hchange o
  | cons name rest ih =>
    rw [List.forall_mem_cons] at hplace
    match o with
    | none => exact ho
    | some (.file content) => exact ho
    | some (.link target) => exact ho
    | some (.directory entries) =>
      intro n hn
      rw [FileNode.alter, Option.some.injEq] at hn
      subst hn
      have hentries := ho _ rfl
      refine hentries.setEntry hplace.1 (ih hplace.2 ?_)
      exact fun n hn => (hentries.of_lookup hn).2

/-! ## Descendants -/

theorem mem_descendantsAmong {entries : List (String × FileNode)} {e : Place × FileNode} :
    e ∈ descendantsAmong entries ↔ ∃ entry ∈ entries,
      e = ([entry.1], entry.2) ∨ ∃ d ∈ entry.2.descendants, e = (entry.1 :: d.1, d.2) := by
  induction entries with
  | nil => simp [descendantsAmong]
  | cons first rest ih =>
    obtain ⟨name, node⟩ := first
    rw [descendantsAmong, List.cons_append, List.mem_cons, List.mem_append, List.mem_map, ih,
      List.exists_mem_cons_iff]
    simp only [eq_comm (a := e), or_assoc]

theorem mem_descendants_of_at? {node child : FileNode} {place : Place} (hne : place ≠ [])
    (h : node.at? place = some child) : (place, child) ∈ node.descendants := by
  induction place generalizing node with
  | nil => exact absurd rfl hne
  | cons name rest ih =>
    rw [at?, Option.bind_eq_some_iff] at h
    obtain ⟨next, hnext, hrest⟩ := h
    cases node with
    | file content => cases hnext
    | link target => cases hnext
    | directory entries =>
      obtain ⟨front, more, rfl, -⟩ := List.lookup_eq_some_iff.mp hnext
      rw [descendants, mem_descendantsAmong]
      refine ⟨(name, next), by simp, ?_⟩
      cases rest with
      | nil =>
        obtain rfl : next = child := Option.some.inj hrest
        exact .inl rfl
      | cons second others => exact .inr ⟨_, ih (List.cons_ne_nil _ _) hrest, rfl⟩

theorem Proper.of_mem_descendants {node : FileNode} (h : node.Proper links) :
    ∀ e ∈ node.descendants,
      e.1 ≠ [] ∧ (∀ name ∈ e.1, Path.IsName name) ∧ e.2.Proper links := by
  induction h with
  | file content => simp [descendants]
  | link target => simp [descendants]
  | @directory entries names nodes ih =>
    intro e he
    rw [descendants, mem_descendantsAmong] at he
    obtain ⟨entry, hentry, rfl | ⟨d, hd, rfl⟩⟩ := he
    · exact ⟨List.cons_ne_nil _ _, by simpa using names entry hentry, nodes entry hentry⟩
    · obtain ⟨-, hnames, hproper⟩ := ih entry hentry d hd
      exact ⟨List.cons_ne_nil _ _, List.forall_mem_cons.mpr ⟨names entry hentry, hnames⟩, hproper⟩

end FileNode

namespace FileTree

/-! ## Trees -/

open FileNode

variable (t : FileTree)

/-- What stands at a place, without what stands in it. -/
def shape (place : Place) : Option FileNode := (t.get? place).map bare

/-- The content of the file at the place. -/
def file? (place : Place) : Option ByteArray := (t.shape place).bind content?

def IsDirectory (place : Place) : Prop := t.shape place = some (.directory [])

/-- All names in the tree can stand in a path. -/
def Named : Prop := t.root.Proper true

/-- The tree holds files and directories only, under names that can stand in a path, and paths start
in one of the directories. -/
structure Plain : Prop where
  proper : t.root.Proper false
  start : t.IsDirectory t.start

variable {t}

theorem shape_eq_directory {place : Place} :
    t.IsDirectory place ↔ ∃ entries, t.get? place = some (.directory entries) := by
  simp [IsDirectory, shape]

theorem shape_eq_file {place : Place} {content : ByteArray} :
    t.shape place = some (.file content) ↔ t.get? place = some (.file content) := by
  simp [shape]

theorem file?_eq_some {place : Place} {content : ByteArray} :
    t.file? place = some content ↔ t.get? place = some (.file content) := by
  simp [file?, Option.bind_eq_some_iff, content?_eq_some, shape_eq_file]

theorem file?_of_update {t' : FileTree} {place : Place} {new : Option FileNode}
    (h : t'.shape = Function.update t.shape place new) :
    t'.file? = Function.update t.file? place (new.bind content?) := by
  funext other
  rw [file?, h, Function.update_apply, Function.update_apply]
  split_ifs <;> rfl

theorem isDirectory_root : t.IsDirectory [] := rfl

theorem not_isDirectory_of_file? {place : Place} {content : ByteArray}
    (h : t.file? place = some content) : ¬ t.IsDirectory place := by
  rw [file?_eq_some] at h
  simp [shape_eq_directory, h]

theorem get?_concat (front : Place) (name : String) :
    t.get? (front ++ [name]) = (t.get? front).bind fun node => node.child? name := by
  rw [get?, at?_append]
  congr 1
  funext node
  simp [at?]

/-- Above whatever stands in a tree there are directories. -/
theorem isDirectory_of_concat {front : Place} {name : String} {node : FileNode}
    (h : t.get? (front ++ [name]) = some node) : t.IsDirectory front := by
  rw [get?_concat, Option.bind_eq_some_iff] at h
  obtain ⟨parent, hparent, hchild⟩ := h
  cases parent with
  | file content => cases hchild
  | link target => cases hchild
  | directory entries => exact shape_eq_directory.mpr ⟨entries, hparent⟩

theorem isDirectory_above {front rest : Place} (hne : rest ≠ []) {node : FileNode}
    (h : t.get? (front ++ rest) = some node) : t.IsDirectory front := by
  induction rest using List.reverseRecOn generalizing node with
  | nil => exact absurd rfl hne
  | append_singleton more last ih =>
    rw [← List.append_assoc] at h
    have hdir := isDirectory_of_concat h
    by_cases hmore : more = []
    · rwa [hmore, List.append_nil] at hdir
    · obtain ⟨entries, hentries⟩ := shape_eq_directory.mp hdir
      exact ih hmore hentries

theorem IsDirectory.dropLast {place : Place} (h : t.IsDirectory place) :
    t.IsDirectory place.dropLast := by
  induction place using List.reverseRecOn with
  | nil => exact h
  | append_singleton front last =>
    obtain ⟨entries, hentries⟩ := shape_eq_directory.mp h
    rw [List.dropLast_concat]
    exact isDirectory_of_concat hentries

/-! ## Changes -/

theorem some_root_alter (change : Option FileNode → Option FileNode) {place : Place}
    (h : place ≠ []) : some (t.alter change place).root = FileNode.alter change place (some t.root) := by
  cases place with
  | nil => exact absurd rfl h
  | cons name rest => rfl

theorem shape_alter (change : Option FileNode → Option FileNode) {front : Place} {name : String}
    (hdir : t.IsDirectory front) (hold : Childless (t.get? (front ++ [name])))
    (hnew : Childless (change (t.get? (front ++ [name])))) :
    (t.alter change (front ++ [name])).shape = Function.update t.shape (front ++ [name])
      ((change (t.get? (front ++ [name]))).map bare) := by
  obtain ⟨entries, hentries⟩ := shape_eq_directory.mp hdir
  have hlookup : t.get? (front ++ [name]) = entries.lookup name := by
    rw [get?_concat, hentries]
    rfl
  rw [hlookup] at hold hnew ⊢
  funext place
  have hnode : ∀ tree : FileTree, tree.get? place = (some tree.root).bind (at? place) := fun _ => rfl
  rw [shape, hnode, some_root_alter change (by simp),
    bare_at?_alter change (o := some t.root) hentries hold hnew, Function.update_apply]
  rfl

theorem proper_alter {links : Bool} (h : t.root.Proper links)
    {change : Option FileNode → Option FileNode}
    (hchange : ∀ o n, change o = some n → n.Proper links) {place : Place}
    (hne : place ≠ []) (hplace : ∀ name ∈ place, Path.IsName name) :
    (t.alter change place).root.Proper links := by
  have hroot : ∀ n, some t.root = some n → n.Proper links := by
    rintro n hn
    rwa [← Option.some.inj hn]
  exact Proper.alter hchange hplace hroot _ (some_root_alter change hne).symm

end FileTree

end RpcScaffold
