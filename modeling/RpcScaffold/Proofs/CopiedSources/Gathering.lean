import RpcScaffold.Proofs.CopiedSources.Staging
import RpcScaffold.Proofs.Files.Answers
import RpcScaffold.Proofs.Files.Following
import RpcScaffold.Proofs.Files.SourceTrees
import RpcScaffold.Proofs.Generation.Paths

/-!
# Which sources are collected

The walk comes to every file once, and the way to a file can be read off the path of its copy. So
each source of a tree has one copy at a path of its own, and no copy stands in the way of another.
-/

namespace RpcScaffold

/-! ## Names of sources -/

/-- The extension of the name is `rs`. A name that starts with its only dot has none. -/
def IsSourceName (name : String) : Prop := ∃ stem, stem ≠ "" ∧ name = stem ++ ".rs"

theorem CopiedSources.isSourceName_iff {name : String} :
    isSourceName name = true ↔ IsSourceName name := by
  have hending : ".rs".toList = ['.', 'r', 's'] := String.toList_ofList
  rw [isSourceName, Bool.and_eq_true, bne_iff_ne, List.isSuffixOf_iff_suffix, IsSourceName]
  constructor
  · rintro ⟨hne, stem, hstem⟩
    have hname : name = String.ofList stem ++ ".rs" := by
      rw [← String.toList_inj, String.toList_append, String.toList_ofList, hending, hstem]
    refine ⟨String.ofList stem, ?_, hname⟩
    intro hempty
    rw [hempty, String.empty_append] at hname
    exact hne hname
  · rintro ⟨stem, hstem, rfl⟩
    refine ⟨?_, stem.toList, by rw [String.toList_append, hending]⟩
    intro heq
    have hempty : stem ++ ".rs" = "" ++ ".rs" := by rw [heq, String.empty_append]
    rw [String.append_left_inj] at hempty
    exact hstem hempty

namespace SourceTree

variable (tree : SourceTree)

/-- The root and all below it. -/
def all : List (Place × FileNode) := ([], tree.root) :: tree.nodes

/-- A file with the extension of sources stands at the end of the way. -/
def IsSource (names : Place) (content : ByteArray) : Prop :=
  tree.root.at? names = some (.file content) ∧
    ∃ name, names.getLast? = some name ∧ IsSourceName name

variable {tree}

theorem mem_all {e : Place × FileNode} : e ∈ tree.all ↔ tree.root.at? e.1 = some e.2 := by
  obtain ⟨names, node⟩ := e
  rw [all, List.mem_cons, mem_nodes]
  cases names with
  | nil => simp [FileNode.at?, eq_comm]
  | cons name rest => simp

theorem nodup_all : (tree.all.map (·.1)).Nodup := by
  rw [all, List.map_cons, List.nodup_cons]
  refine ⟨fun hmem => ?_, tree.nodup_nodes⟩
  obtain ⟨e, he, hnil⟩ := List.mem_map.mp hmem
  exact (tree.mem_nodes.mp he).1 hnil

theorem isName_of_at? {names : Place} {node : FileNode} (h : tree.root.at? names = some node) :
    ∀ name ∈ names, Path.IsName name := (tree.proper.at? h).1

theorem isSource_iff {names : Place} {content : ByteArray} : tree.IsSource names content ↔
    (names, .file content) ∈ tree.all ∧
      names.getLast?.any CopiedSources.isSourceName = true := by
  simp only [IsSource, mem_all, Option.any_eq_true, CopiedSources.isSourceName_iff]

theorem IsSource.ne_nil {names : Place} {content : ByteArray} (h : tree.IsSource names content) :
    names ≠ [] := by
  rintro rfl
  obtain ⟨-, name, hname, -⟩ := h
  cases hname

theorem IsSource.isName {names : Place} {content : ByteArray} (h : tree.IsSource names content) :
    ∀ name ∈ names, Path.IsName name := isName_of_at? h.1

end SourceTree

namespace CopiedSources

open FileProgram FileAction

/-! ## Paths -/

/-- The path of a node below the directory. -/
def pathTo (directory : String) : Place → String
  | [] => directory
  | name :: rest => Path.join directory ("/".intercalate (name :: rest))

theorem placeFrom_pathTo (start : Place) (directory : String) {names : Place}
    (h : ∀ name ∈ names, Path.IsName name) : Path.placeFrom start (pathTo directory names) =
      Path.placeFrom start directory ++ names := by
  cases names with
  | nil => rw [pathTo, List.append_nil]
  | cons name rest => exact Path.placeFrom_found start directory (List.cons_ne_nil name rest) h

theorem copyPath_inj {target : String} {names others : Place} (hne : names ≠ [])
    (hne' : others ≠ []) (h : ∀ name ∈ names, Path.IsName name)
    (h' : ∀ name ∈ others, Path.IsName name)
    (heq : copyPath target names = copyPath target others) : names = others := by
  have hjoined := congrArg Path.pieces (inDirectory_inj target heq)
  rwa [Path.pieces_intercalate hne fun name hname => (h name hname).2.2.2,
    Path.pieces_intercalate hne' fun name hname => (h' name hname).2.2.2] at hjoined

/-! ## Answers for a source tree -/

/-- What a walk that starts at the directory says of a node. -/
def foundAt (directory : String) (e : Place × FileNode) : Found :=
  ⟨e.1, pathTo directory e.1, e.2.kind⟩

/-- What files say, and walks, if the tree stands at the directory: a walk comes to every node,
every directory can be listed and every file read. -/
structure Serves (answers : (op : FileOp) → op.Answer) (directory : String) (tree : SourceTree) :
    Prop where
  kind : answers (.kind directory) = some .directory
  walk : answers (.walk directory) = .ok (tree.all.map (foundAt directory))
  opens : ∀ names entries, tree.root.at? names = some (.directory entries) →
    answers (.openDirectory (pathTo directory names)) = .ok ()
  reads : ∀ names content, tree.root.at? names = some (.file content) →
    answers (.read (pathTo directory names)) = .ok content

/-- The node that a path below the directory leads to. -/
def nodeBelow? (directory : String) (tree : SourceTree) (path : String) : Option FileNode :=
  tree.root.at? ((Path.placeFrom [] path).drop (Path.placeFrom [] directory).length)

theorem nodeBelow?_pathTo {directory : String} {tree : SourceTree} {names : Place} {node : FileNode}
    (h : tree.root.at? names = some node) :
    nodeBelow? directory tree (pathTo directory names) = some node := by
  rw [nodeBelow?, placeFrom_pathTo [] directory (SourceTree.isName_of_at? h), List.drop_left, h]

/-- What the tree itself answers if it stands at the directory and nothing can be written. -/
def treeAnswers (directory : String) (tree : SourceTree) : (op : FileOp) → op.Answer
  | .kind path => (nodeBelow? directory tree path).map (·.kind)
  | .walk path => .ok (tree.all.map (foundAt path))
  | .read path => ((nodeBelow? directory tree path).bind (·.content?)).elim (.error .notFound) .ok
  | .openDirectory path =>
    if (nodeBelow? directory tree path).map (·.kind) = some .directory then .ok ()
    else .error .notFound
  | .write _ _ | .makeDirectory _ | .rename _ _ | .remove _ => .error (.other "read-only")

/-- Whatever the tree, there can be files that serve it. -/
theorem serves_treeAnswers (directory : String) (tree : SourceTree) :
    Serves (treeAnswers directory tree) directory tree := by
  constructor
  · have hroot : tree.root.at? [] = some tree.root := rfl
    have hnode : nodeBelow? directory tree (pathTo directory []) = _ := nodeBelow?_pathTo hroot
    rw [pathTo] at hnode
    rw [treeAnswers, hnode]
    rfl
  · rfl
  · intro names entries hat
    rw [treeAnswers, nodeBelow?_pathTo hat]
    exact if_pos rfl
  · intro names content hat
    rw [treeAnswers, nodeBelow?_pathTo hat]
    rfl

/-- A tree in memory serves those of its directories below which every node can be found under its
path, so that no path is too long. -/
theorem serves_of_plain {t : FileTree} (h : t.Plain) {directory : String} {tree : SourceTree}
    (hroot : t.get? (t.place directory) = some tree.root)
    (hfound : ∀ e ∈ tree.all, t.kindAt (pathTo directory e.1) = some e.2.kind) :
    Serves t.answers directory tree := by
  have hnode : ∀ names node, tree.root.at? names = some node →
      t.Leads (pathTo directory names) ∧ t.get? (t.place (pathTo directory names)) = some node := by
    intro names node hat
    have hmem := SourceTree.mem_all (e := (names, node)).mpr hat
    refine ⟨((FileTree.kindAt_eq_some h).mp (hfound _ hmem)).1, ?_⟩
    rw [FileTree.place, placeFrom_pathTo t.start directory (SourceTree.isName_of_at? hat),
      FileTree.get?, FileNode.at?_append]
    change (t.get? (t.place directory)).bind _ = _
    rw [hroot]
    exact hat
  obtain ⟨hleads, hget⟩ := hnode [] tree.root rfl
  constructor
  · exact hfound _ List.mem_cons_self
  · change t.walk directory = _
    rw [FileTree.walk, show t.resolve .entry directory = _ from hleads.resolve h (by decide) hget]
    refine congrArg (Except.ok ∘ List.cons _) (List.map_congr_left fun e he => ?_)
    obtain ⟨name, rest, hnames⟩ := List.exists_cons_of_ne_nil (tree.mem_nodes.mp he).1
    rw [foundAt, hnames, pathTo]
  · intro names entries hat
    obtain ⟨hleads, hget⟩ := hnode names _ hat
    change t.openDirectory _ = _
    rw [FileTree.openDirectory, hleads.resolve h (by decide) hget]
    rfl
  · intro names content hat
    obtain ⟨hleads, hget⟩ := hnode names _ hat
    exact (FileTree.read_eq_ok h).mpr ⟨hleads, FileTree.file?_eq_some.mpr hget⟩

/-! ## One source -/

theorem fromUTF8?_toUTF8 (text : String) : String.fromUTF8? text.toUTF8 = some text := by
  rw [String.fromUTF8?, String.toUTF8_eq_toByteArray, dif_pos text.isValidUTF8]
  rfl

theorem toUTF8_of_fromUTF8? {content : ByteArray} {text : String}
    (h : String.fromUTF8? content = some text) : content = text.toUTF8 := by
  rw [String.fromUTF8?] at h
  split at h
  · cases h
    rfl
  · cases h

variable {answers : (op : FileOp) → op.Answer} {directory target : String}

theorem answered_readText {path text : String} (h : answers (.read path) = .ok text.toUTF8) :
    (readText path).run.answered answers = .ok text := by
  have hread : (read path).answered answers = .ok text.toUTF8 := h
  rw [readText, orFailAt, ExceptT.run_mk, answered_bind, answered_bind, hread]
  dsimp only
  rw [fromUTF8?_toUTF8]
  rfl

/-- The copy of a source, with its path. -/
def copyOf (target : String) (s : Place × String) : String × Artifact :=
  (copyPath target s.1, ⟨.copiedSource, SourceText.stripMarkers s.2⟩)

theorem answered_stage {b next : Bundle} {f : Found} {text : String}
    (hread : answers (.read f.path) = .ok text.toUTF8)
    (hsize : text.toUTF8.size ≤ SourceText.sizeLimit)
    (hinsert : b.insert (copyPath target f.names) .copiedSource (SourceText.stripMarkers text) =
      .ok next) : (stage target b f).run.answered answers = .ok next := by
  have hprepare : SourceText.prepare text SourceText.sizeLimit =
      .ok (SourceText.stripMarkers text) := if_neg (Nat.not_lt.mpr hsize)
  rw [stage, answered_bind_ok (answered_readText hread), hprepare]
  change Except.mapError _ (b.insert (copyPath target f.names) _ _) = _
  rw [hinsert]
  rfl

/-! ## All sources -/

/-- The source that the node is, with its text. -/
def sourceOf? (e : Place × FileNode) : Option (Place × String) :=
  match e.2 with
  | .file content =>
    if e.1.getLast?.any isSourceName then (String.fromUTF8? content).map (e.1, ·) else none
  | .link _ | .directory _ => none

theorem sourceOf?_eq_some {e : Place × FileNode} {s : Place × String} : sourceOf? e = some s ↔
    e = (s.1, .file s.2.toUTF8) ∧ s.1.getLast?.any isSourceName = true := by
  obtain ⟨names, node⟩ := e
  constructor
  · intro h
    cases node with
    | link target => cases h
    | directory entries => cases h
    | file content =>
      rw [sourceOf?] at h
      split_ifs at h with hname
      obtain ⟨text, htext, rfl⟩ := Option.map_eq_some_iff.mp h
      exact ⟨by rw [toUTF8_of_fromUTF8? htext], hname⟩
  · rintro ⟨heq, hname⟩
    rw [heq, sourceOf?]
    dsimp only
    rw [if_pos hname, fromUTF8?_toUTF8]
    rfl

section

variable {tree : SourceTree}

/-- If the copies can all be staged, they are. -/
theorem answered_stageAll (hserves : Serves answers directory tree)
    (htexts : ∀ names content, tree.IsSource names content →
      ∃ text : String, content = text.toUTF8 ∧ content.size ≤ SourceText.sizeLimit)
    {es : List (Place × FileNode)} (hes : ∀ e ∈ es, e ∈ tree.all) {b next : Bundle}
    (hok : b.insertAll ((es.filterMap sourceOf?).map (copyOf target)) = .ok next) (count : Nat) :
    (stageAll target b count (es.map (foundAt directory))).answered answers =
      (.ok (count + (es.filterMap sourceOf?).length), next) := by
  induction es generalizing b count with
  | nil =>
    cases hok
    rfl
  | cons e rest ih =>
    obtain ⟨he, hrest⟩ := List.forall_mem_cons.mp hes
    obtain ⟨names, node⟩ := e
    have hat : tree.root.at? names = some node := SourceTree.mem_all.mp he
    rw [List.map_cons, stageAll]
    cases node with
    | directory entries =>
      have henter : (enter (foundAt directory (names, .directory entries))).answered answers =
          .ok () := by
        rw [enter, answered_bind]
        exact congrArg (Except.mapError _) (hserves.opens names entries hat)
      rw [if_pos (by rfl), answered_bind, henter]
      exact ih hrest hok count
    | link target => exact ih hrest hok count
    | file content =>
      rw [if_neg (by simp [foundAt, FileNode.kind])]
      by_cases hsource : names.getLast?.any isSourceName = true
      · obtain ⟨text, rfl, hsize⟩ :=
          htexts names content (SourceTree.isSource_iff.mpr ⟨he, hsource⟩)
        have hhead : sourceOf? (names, .file text.toUTF8) = some (names, text) :=
          sourceOf?_eq_some.mpr ⟨rfl, hsource⟩
        rw [List.filterMap_cons_some hhead] at hok ⊢
        obtain ⟨b', hinsert, hok⟩ := bind_eq_ok.mp hok
        have hstage : (stage target b (foundAt directory (names, .file text.toUTF8))).run.answered
            answers = .ok b' := answered_stage (hserves.reads names _ hat) hsize hinsert
        rw [if_pos (by simpa [isSource, foundAt, FileNode.kind] using hsource), answered_bind,
          hstage, List.length_cons, ← Nat.add_assoc, Nat.add_right_comm]
        exact ih hrest hok (count + 1)
      · have hhead : sourceOf? (names, .file content) = none := by simp [sourceOf?, hsource]
        rw [List.filterMap_cons_none hhead] at hok ⊢
        rw [if_neg (by simpa [isSource, foundAt, FileNode.kind] using hsource)]
        exact ih hrest hok count

theorem answered_collect (hserves : Serves answers directory tree)
    (htexts : ∀ names content, tree.IsSource names content →
      ∃ text : String, content = text.toUTF8 ∧ content.size ≤ SourceText.sizeLimit)
    {b next : Bundle}
    (hok : b.insertAll ((tree.all.filterMap sourceOf?).map (copyOf target)) = .ok next) :
    (collect directory target b).answered answers =
      (.ok (tree.all.filterMap sourceOf?).length, next) := by
  have hkind : (isDirectory directory).answered answers = true := by
    rw [isDirectory, answered_bind]
    exact congrArg (fun k => k == some FileKind.directory) hserves.kind
  have hwalk : (walk directory).answered answers = .ok (tree.all.map (foundAt directory)) :=
    hserves.walk
  rw [collect, answered_bind, hkind, if_pos rfl, answered_bind, hwalk]
  simpa using answered_stageAll hserves htexts (fun _ he => he) hok 0

/-! ## Sources and their copies -/

theorem mem_sources {names : Place} {text : String} :
    (names, text) ∈ tree.all.filterMap sourceOf? ↔ tree.IsSource names text.toUTF8 := by
  simp only [List.mem_filterMap, sourceOf?_eq_some, SourceTree.isSource_iff]
  constructor
  · rintro ⟨e, he, rfl, hname⟩
    exact ⟨he, hname⟩
  · rintro ⟨he, hname⟩
    exact ⟨_, he, rfl, hname⟩

/-- Every source has its path, and no two have the same. -/
theorem nodup_copyPaths (tree : SourceTree) (target : String) :
    ((tree.all.filterMap sourceOf?).map fun s => copyPath target s.1).Nodup := by
  have hplaces : ((tree.all.filterMap sourceOf?).map (·.1)).Nodup := by
    have hall := tree.nodup_all
    rw [List.Nodup, List.pairwise_map] at hall ⊢
    refine hall.filterMap sourceOf? fun e e' hne s hs s' hs' heq => hne ?_
    rw [(sourceOf?_eq_some.mp hs).1, (sourceOf?_eq_some.mp hs').1]
    exact heq
  have hsource : ∀ place ∈ (tree.all.filterMap sourceOf?).map (·.1),
      place ≠ [] ∧ ∀ name ∈ place, Path.IsName name := by
    rw [List.forall_mem_map]
    rintro ⟨names, text⟩ hmem
    have h := mem_sources.mp hmem
    exact ⟨h.ne_nil, h.isName⟩
  have hpaths := hplaces.map_on (f := copyPath target) fun place hplace other hother heq =>
    copyPath_inj (hsource place hplace).1 (hsource other hother).1 (hsource place hplace).2
      (hsource other hother).2 heq
  rwa [List.map_map] at hpaths

end

/-- From a source tree every source at any depth is collected, each to a path of its own. Nothing
else is staged, and what was there before stays. -/
theorem collect_gathers (tree : SourceTree) (directory target : String) (b : Bundle)
    (htexts : ∀ names content, tree.IsSource names content →
      ∃ text : String, content = text.toUTF8 ∧ content.size ≤ SourceText.sizeLimit)
    (hfree : ∀ names content, tree.IsSource names content → b.get? (copyPath target names) = none) :
    (∃ answers, Serves answers directory tree) ∧ ∀ answers, Serves answers directory tree →
      ∃ (sources : List (Place × String)) (next : Bundle),
        (collect directory target b).answered answers = (.ok sources.length, next) ∧
        (∀ names text, (names, text) ∈ sources ↔ tree.IsSource names text.toUTF8) ∧
        (sources.map fun s => copyPath target s.1).Nodup ∧
        next.toList.Perm (b.toList ++ sources.map (copyOf target)) ∧
        ∀ path a, next.get? path = some a ↔ b.get? path = some a ∨ ∃ names text,
          tree.IsSource names (String.toUTF8 text) ∧ path = copyPath target names ∧
            a = ⟨.copiedSource, SourceText.stripMarkers text⟩ := by
  refine ⟨⟨_, serves_treeAnswers directory tree⟩, fun answers hserves => ?_⟩
  have hpaths := nodup_copyPaths tree target
  have hinserts :
      Free b.paths (((tree.all.filterMap sourceOf?).map (copyOf target)).map (·.1)) := by
    rw [List.map_map]
    refine ⟨hpaths, List.forall_mem_map.mpr ?_⟩
    rintro ⟨names, text⟩ hmem htaken
    have hcontains := (b.holds_paths _).mpr htaken
    rw [NameMap.contains, ← Bundle.get?] at hcontains
    simp [copyOf, hfree names _ (mem_sources.mp hmem)] at hcontains
  obtain ⟨next, hnext⟩ := (Bundle.exists_insertAll_iff b.holds_paths).mpr hinserts
  refine ⟨tree.all.filterMap sourceOf?, next, answered_collect hserves htexts hnext,
    fun names text => mem_sources, hpaths, Bundle.toList_insertAll hnext, fun path a => ?_⟩
  rw [Bundle.get?_insertAll hnext, List.mem_map]
  refine or_congr_right ⟨?_, ?_⟩
  · rintro ⟨⟨names, text⟩, hmem, heq⟩
    obtain ⟨rfl, rfl⟩ := Prod.mk.inj heq
    exact ⟨names, text, mem_sources.mp hmem, rfl, rfl⟩
  · rintro ⟨names, text, hsource, rfl, rfl⟩
    exact ⟨(names, text), mem_sources.mpr hsource, rfl⟩

/-! ## An example -/

/-- Two sources, one of them deeper, and a file that is none. -/
def nestedSources : SourceTree where
  entries := [
    ("nested", .directory [("address.rs", .file "pub struct Address;\n".toUTF8)]),
    ("notes.md", .file "# notes\n".toUTF8),
    ("person.rs", .file "#[grpc_model]\npub struct Person;\n".toUTF8)]
  proper := by
    refine .directory (by decide +kernel) ?_
    simp only [List.forall_mem_cons]
    exact ⟨.directory (by decide +kernel) (by simpa using .file _), .file _, .file _, by simp⟩
  distinct := by
    refine .directory (by decide +kernel) ?_
    simp only [List.forall_mem_cons]
    exact ⟨.directory (by decide +kernel) (by simpa using .file _), .file _, .file _, by simp⟩

def withNestedSources : FileTree where
  entries := [("src", nestedSources.root)]

theorem serves_nestedSources : Serves withNestedSources.answers "src" nestedSources := by
  have hplain : withNestedSources.Plain :=
    ⟨.directory (by decide +kernel) (List.forall_mem_singleton.mpr nestedSources.proper), rfl⟩
  exact serves_of_plain hplain rfl (by decide +kernel)

def withReadme : Bundle := ⟨⟨[("README.txt", ⟨.instructions, "setup\n"⟩)]⟩⟩

theorem eq_of_isSource_nestedSources {names : Place} {content : ByteArray}
    (h : nestedSources.IsSource names content) :
    (names = ["nested", "address.rs"] ∧ content = "pub struct Address;\n".toUTF8) ∨
      (names = ["person.rs"] ∧ content = "#[grpc_model]\npub struct Person;\n".toUTF8) := by
  obtain ⟨hat, name, hlast, hname⟩ := h
  have hmem : (names, FileNode.file content) ∈ nestedSources.all := SourceTree.mem_all.mpr hat
  have hall : nestedSources.all = [([], nestedSources.root),
      (["nested"], .directory [("address.rs", .file "pub struct Address;\n".toUTF8)]),
      (["nested", "address.rs"], .file "pub struct Address;\n".toUTF8),
      (["notes.md"], .file "# notes\n".toUTF8),
      (["person.rs"], .file "#[grpc_model]\npub struct Person;\n".toUTF8)] := rfl
  simp only [hall, List.mem_cons, Prod.mk.injEq, SourceTree.root, FileNode.file.injEq, reduceCtorEq,
    and_false, false_or, List.not_mem_nil, or_false] at hmem
  rcases hmem with haddress | ⟨rfl, -⟩ | hperson
  · exact .inl haddress
  · obtain rfl : name = "notes.md" := (Option.some.inj hlast).symm
    exact absurd (isSourceName_iff.mpr hname) (by decide +kernel)
  · exact .inr hperson

theorem collect_gathers_nested : ∃ (sources : List (Place × String)) (next : Bundle),
    (collect "src" "shared/src/models" withReadme).runOn withNestedSources =
      ((.ok sources.length, next), withNestedSources) ∧
    next.get? "README.txt" = some ⟨.instructions, "setup\n"⟩ ∧
    next.get? "shared/src/models/nested/address.rs" =
      some ⟨.copiedSource, "pub struct Address;\n"⟩ ∧
    next.get? "shared/src/models/person.rs" = some ⟨.copiedSource, "pub struct Person;\n"⟩ := by
  have htexts : ∀ names content, nestedSources.IsSource names content →
      ∃ text : String, content = text.toUTF8 ∧ content.size ≤ SourceText.sizeLimit := by
    intro names content h
    rcases eq_of_isSource_nestedSources h with ⟨-, rfl⟩ | ⟨-, rfl⟩ <;>
      exact ⟨_, rfl, by decide +kernel⟩
  have hfree : ∀ names content, nestedSources.IsSource names content →
      withReadme.get? (copyPath "shared/src/models" names) = none := by
    intro names content h
    rcases eq_of_isSource_nestedSources h with ⟨rfl, -⟩ | ⟨rfl, -⟩ <;> decide +kernel
  obtain ⟨sources, next, hrun, -, -, -, hget⟩ := (collect_gathers nestedSources "src"
    "shared/src/models" withReadme htexts hfree).2 _ serves_nestedSources
  refine ⟨sources, next, by rw [runOn_collect, hrun], (hget _ _).mpr (.inl rfl),
    (hget _ _).mpr (.inr ?_), (hget _ _).mpr (.inr ?_)⟩
  · exact ⟨["nested", "address.rs"], "pub struct Address;\n",
      ⟨rfl, _, rfl, "address", by decide, rfl⟩, by decide +kernel, by decide +kernel⟩
  · exact ⟨["person.rs"], "#[grpc_model]\npub struct Person;\n",
      ⟨rfl, _, rfl, "person", by decide, rfl⟩, by decide +kernel, by decide +kernel⟩

end CopiedSources

end RpcScaffold
