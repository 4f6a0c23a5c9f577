import Mathlib.Data.List.Nodup
import RpcScaffold.Proofs.Files.Shape
import RpcScaffold.Proofs.NameMap

/-!
# Trees of files and directories

In a tree whose directories have each name once, the way to a node says which node it is. The list
of all nodes then has each of them once.
-/

namespace RpcScaffold

namespace FileNode

/-- Every directory has each name once. -/
inductive Distinct : FileNode → Prop
  | file (content : ByteArray) : Distinct (file content)
  | link (target : String) : Distinct (link target)
  | directory {entries : List (String × FileNode)} (names : (entries.map (·.1)).Nodup)
      (nodes : ∀ e ∈ entries, Distinct e.2) : Distinct (directory entries)

/-- A way down starts with the name of an entry. -/
theorem exists_head {entries : List (String × FileNode)} {e : Place × FileNode}
    (he : e ∈ descendantsAmong entries) : ∃ entry ∈ entries, e.1.head? = some entry.1 := by
  obtain ⟨entry, hentry, rfl | ⟨d, -, rfl⟩⟩ := mem_descendantsAmong.mp he
  · exact ⟨entry, hentry, rfl⟩
  · exact ⟨entry, hentry, rfl⟩

theorem ne_nil_of_mem_descendants {node : FileNode} {e : Place × FileNode}
    (he : e ∈ node.descendants) : e.1 ≠ [] := by
  cases node with
  | file content => cases he
  | link target => cases he
  | directory entries =>
    obtain ⟨entry, -, hhead⟩ := exists_head he
    exact List.ne_nil_of_mem (List.mem_of_head? hhead)

theorem Distinct.at?_of_mem_descendants {node : FileNode} (h : node.Distinct) :
    ∀ e ∈ node.descendants, node.at? e.1 = some e.2 := by
  induction h with
  | file content => simp [descendants]
  | link target => simp [descendants]
  | directory names nodes ih =>
    intro e he
    obtain ⟨entry, hentry, rfl | ⟨d, hd, rfl⟩⟩ := mem_descendantsAmong.mp he
    · simp [at?, child?, lookup_of_mem names hentry]
    · rw [at?, child?, lookup_of_mem names hentry]
      exact ih entry hentry d hd

/-- The nodes below a node are those to which some way of names leads. -/
theorem Distinct.mem_descendants {node : FileNode} (h : node.Distinct) {e : Place × FileNode} :
    e ∈ node.descendants ↔ e.1 ≠ [] ∧ node.at? e.1 = some e.2 := by
  constructor
  · intro he
    exact ⟨ne_nil_of_mem_descendants he, h.at?_of_mem_descendants e he⟩
  · rintro ⟨hne, hat⟩
    exact mem_descendants_of_at? hne hat

theorem nodup_descendantsAmong {entries : List (String × FileNode)}
    (names : (entries.map (·.1)).Nodup)
    (nodes : ∀ e ∈ entries, (e.2.descendants.map (·.1)).Nodup) :
    ((descendantsAmong entries).map (·.1)).Nodup := by
  induction entries with
  | nil => exact List.nodup_nil
  | cons entry rest ih =>
    obtain ⟨name, node⟩ := entry
    obtain ⟨hname, hrest⟩ := List.nodup_cons.mp names
    rw [List.forall_mem_cons] at nodes
    have hbelow : ((node.descendants.map fun e => (name :: e.1, e.2)).map (·.1)).Nodup := by
      have hplaces := nodes.1.map (List.cons_injective (a := name))
      rwa [List.map_map] at hplaces ⊢
    rw [descendantsAmong, List.map_append, List.map_cons, List.nodup_append', List.nodup_cons]
    refine ⟨⟨?_, hbelow⟩, ih hrest nodes.2, ?_⟩
    · -- Below the entry the way goes on.
      intro hmem
      obtain ⟨d, hd, heq⟩ := List.mem_map.mp hmem
      obtain ⟨e, he, rfl⟩ := List.mem_map.mp hd
      exact ne_nil_of_mem_descendants he (List.cons.inj heq).2
    · -- Elsewhere it starts with another name.
      intro place hplace hother
      obtain ⟨d, hd, rfl⟩ := List.mem_map.mp hother
      obtain ⟨other, hin, hhead⟩ := exists_head hd
      have hfirst : d.1.head? = some name := by
        rcases List.mem_cons.mp hplace with heq | hplace
        · rw [heq]
          rfl
        · obtain ⟨e, he, heq⟩ := List.mem_map.mp hplace
          obtain ⟨c, -, rfl⟩ := List.mem_map.mp he
          rw [← heq]
          rfl
      rw [hhead, Option.some.injEq] at hfirst
      exact hname (List.mem_map.mpr ⟨other, hin, hfirst⟩)

theorem Distinct.nodup_descendants {node : FileNode} (h : node.Distinct) :
    (node.descendants.map (·.1)).Nodup := by
  induction h with
  | file content => exact List.nodup_nil
  | link target => exact List.nodup_nil
  | directory names nodes ih => exact nodup_descendantsAmong names ih

end FileNode

/-- A directory with files and directories below it, and nothing else. -/
structure SourceTree where
  entries : List (String × FileNode)
  proper : (FileNode.directory entries).Proper false
  distinct : (FileNode.directory entries).Distinct

namespace SourceTree

variable (tree : SourceTree)

def root : FileNode := .directory tree.entries

/-- The files and directories below the root, with the ways to them. -/
def nodes : List (Place × FileNode) := tree.root.descendants

theorem mem_nodes {e : Place × FileNode} :
    e ∈ tree.nodes ↔ e.1 ≠ [] ∧ tree.root.at? e.1 = some e.2 := tree.distinct.mem_descendants

theorem nodup_nodes : (tree.nodes.map (·.1)).Nodup := tree.distinct.nodup_descendants

end SourceTree

end RpcScaffold
