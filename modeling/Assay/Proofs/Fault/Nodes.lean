import Assay.Proofs.Fault.Leaves
import Assay.Proofs.Fault.Recording
import Mathlib.Data.List.Nodup

/-!
# Nodes — a tree as the list of its nodes

The nodes of a tree are listed in preorder, each with the keys that lead to it.  The leaves are some
of them, under texts in place of keys: as long as no key is empty or has a dot in it, a text can be
read back as the keys that it was made from.

* `Fault.nodes` lists the nodes, and `Fault.mem_nodes_iff` states that the keys lead to them;
* `Fault.leaves_eq` picks the leaves, and `Fault.pathKeys_intercalate` reads a path;
* `Fault.leaves_find` puts these together.
-/

namespace Assay.Fault

/-- The node is present, and none of its children is. -/
def isLeaf (fault : Fault) : Bool := fault.isPresent && !anyPresent fault.children

/-- A node below the child under a key. -/
def under (key : String) (node : List String × Fault) : List String × Fault :=
  (key :: node.1, node.2)

mutual

/-- The nodes with the keys that lead to them: a node comes before its children, and all that is
below a child comes before the next one. -/
def nodes : Fault → List (List String × Fault)
  | ⟨code, message, children⟩ => ([], ⟨code, message, children⟩) :: childNodes children
  termination_by structural fault => fault

def childNodes : List (String × Fault) → List (List String × Fault)
  | [] => []
  | (key, child) :: rest =>
    child.nodes.map (under key) ++ childNodes rest
  termination_by structural children => children

end

variable {fault : Fault} {keys : List String}

theorem childNodes_eq (children : List (String × Fault)) :
    childNodes children = children.flatMap fun entry => entry.2.nodes.map (under entry.1) := by
  induction children with
  | nil => rfl
  | cons entry rest ih =>
      rw [List.flatMap_cons, ← ih]
      rfl

theorem nodes_eq (fault : Fault) :
    fault.nodes =
      ([], fault) :: fault.children.flatMap fun entry => entry.2.nodes.map (under entry.1) := by
  rcases fault with ⟨code, message, children⟩
  rw [nodes, childNodes_eq]

/-! ## Keys that lead to nodes -/

/-- By induction on the tree: the first key leads to a child, and the others from there. -/
theorem mem_nodes_iff (keyed : fault.Keyed) {node : Fault} :
    (keys, node) ∈ fault.nodes ↔ fault.follow? keys = some node := by
  induction keyed generalizing keys with
  | @intro fault distinct _ ih =>
      rw [nodes_eq]
      cases keys with
      | nil => simp [follow?, under, eq_comm]
      | cons key keys =>
          have hchild : (key :: keys, node) ∈
              fault.children.flatMap (fun entry => entry.2.nodes.map (under entry.1)) ↔
                ∃ child, (key, child) ∈ fault.children ∧ (keys, node) ∈ child.nodes := by
            simp [under]
          -- No other child has this key, so the lookup cannot miss the child.
          have hlookup (child : Fault) :
              fault.child? key = some child ↔ (key, child) ∈ fault.children :=
            Entries.lookup_eq_some_iff_mem distinct
          rw [List.mem_cons, hchild, follow?, Option.bind_eq_some_iff]
          constructor
          · rintro (hroot | ⟨child, hmem, hnode⟩)
            · cases hroot
            · exact ⟨child, (hlookup child).2 hmem, (ih (key, child) hmem).1 hnode⟩
          · rintro ⟨child, hfound, hnode⟩
            have hmem := (hlookup child).1 hfound
            exact .inr ⟨child, hmem, (ih (key, child) hmem).2 hnode⟩

/-- No two nodes are reached by the same keys. -/
theorem nodup_nodes (keyed : fault.Keyed) : (fault.nodes.map (·.1)).Nodup := by
  induction keyed with
  | @intro fault distinct below ih =>
      have hkeys : fault.nodes.map (·.1) =
          [] :: fault.children.flatMap fun entry =>
            (entry.2.nodes.map (·.1)).map (entry.1 :: ·) := by
        rw [nodes_eq, List.map_cons, List.map_flatMap]
        simp [under, Function.comp_def]
      rw [hkeys, List.nodup_cons, List.nodup_flatMap]
      refine ⟨by simp, fun entry hentry => ?_, ?_⟩
      · exact (ih entry hentry).map (List.cons_injective)
      · -- Below different children, paths differ in their first key.
        refine (List.pairwise_map.1 distinct).imp fun hne => ?_
        intro path hfirst hsecond
        rcases List.mem_map.1 hfirst with ⟨_, _, rfl⟩
        rcases List.mem_map.1 hsecond with ⟨_, _, hsame⟩
        exact hne (List.cons.inj hsame).1.symm

/-! ## Leaves among the nodes -/

theorem anyPresent_of_absent (absent : fault.isPresent = false) :
    anyPresent fault.children = false := by
  rcases fault with ⟨code, message, children⟩
  rw [isPresent, Bool.or_eq_false_iff] at absent
  exact absent.2

/-- An absent fault has no leaves. -/
theorem leavesFrom_of_absent (absent : fault.isPresent = false) (path : String) :
    fault.leavesFrom path = [] := by
  simp [leavesFrom_eq, anyPresent_of_absent absent, absent]

/-- The leaves are the node itself, if it is one, and those below its children. -/
theorem leavesFrom_eq_append (path : String) (fault : Fault) :
    fault.leavesFrom path =
      (if fault.isLeaf then [(path, fault)] else []) ++
        fault.children.flatMap fun entry => entry.2.leavesFrom (childPath path entry.1) := by
  have hbelow : childLeaves path fault.children =
      fault.children.flatMap fun entry => entry.2.leavesFrom (childPath path entry.1) := by
    rw [childLeaves_eq]
    apply List.flatMap_congr
    intro entry _
    -- The walk passes absent children by, but nothing would be found below them.
    cases hpresent : entry.2.isPresent with
    | true => rfl
    | false => exact (leavesFrom_of_absent hpresent _).symm
  rw [leavesFrom_eq, ← hbelow]
  cases hany : anyPresent fault.children with
  | true => simp [isLeaf, hany]
  | false =>
      -- A node without present children has no leaves below it.
      have hnone : childLeaves path fault.children = [] := by
        rw [hbelow, List.flatMap_eq_nil_iff]
        intro entry hentry
        apply leavesFrom_of_absent
        apply Bool.eq_false_iff.2
        intro hpresent
        exact Bool.false_ne_true (hany.symm.trans (anyPresent_iff.2 ⟨entry, hentry, hpresent⟩))
      simp [isLeaf, hany, hnone]

/-- The leaves are listed in the order of the nodes, under what their keys add to the path.  By
induction on the tree, from any path: below a child the path is longer. -/
theorem leavesFrom_eq_map (path : String) (fault : Fault) :
    fault.leavesFrom path = (fault.nodes.filter (·.2.isLeaf)).map fun node =>
      (node.1.foldl childPath path, node.2) := by
  induction fault using children_induction generalizing path with
  | step fault ih =>
      have hbelow : (fault.children.flatMap fun entry =>
            entry.2.leavesFrom (childPath path entry.1)) =
          ((fault.children.flatMap fun entry => entry.2.nodes.map (under entry.1)).filter
            (·.2.isLeaf)).map fun node => (node.1.foldl childPath path, node.2) := by
        rw [List.filter_flatMap, List.map_flatMap]
        apply List.flatMap_congr
        intro entry hentry
        rw [ih entry hentry, List.filter_map, List.map_map]
        rfl
      rw [leavesFrom_eq_append, nodes_eq, hbelow]
      cases hleaf : fault.isLeaf <;> simp [hleaf]

/-- A tree has a leaf unless nothing in it is present. -/
theorem leavesFrom_eq_nil_iff {path : String} :
    fault.leavesFrom path = [] ↔ fault.isPresent = false := by
  refine ⟨fun hnone => ?_, fun habsent => leavesFrom_of_absent habsent path⟩
  induction fault using children_induction generalizing path with
  | step fault ih =>
      rw [leavesFrom_eq_append, List.append_eq_nil_iff, List.flatMap_eq_nil_iff] at hnone
      rcases hnone with ⟨hroot, hbelow⟩
      have hany : anyPresent fault.children = false := by
        apply Bool.eq_false_iff.2
        intro hpresent
        rcases anyPresent_iff.1 hpresent with ⟨entry, hentry, hpresent⟩
        exact Bool.false_ne_true ((ih entry hentry (hbelow entry hentry)).symm.trans hpresent)
      simpa [isLeaf, hany] using hroot

/-! ## Keys in texts -/

/-- The key leaves a trace in a path, and only one: it is not empty and has no dot in it. -/
def IsPlainKey (key : String) : Prop := key ≠ "" ∧ '.' ∉ key.toList

instance (key : String) : Decidable (IsPlainKey key) :=
  inferInstanceAs (Decidable (key ≠ "" ∧ '.' ∉ key.toList))

inductive HasPlainKeys : Fault → Prop where
  | intro {fault : Fault} (plain : ∀ entry ∈ fault.children, IsPlainKey entry.1)
      (below : ∀ entry ∈ fault.children, HasPlainKeys entry.2) : HasPlainKeys fault

/-- Every node lies behind plain keys. -/
theorem HasPlainKeys.of_mem_nodes (plain : fault.HasPlainKeys) {node : List String × Fault}
    (h : node ∈ fault.nodes) : ∀ key ∈ node.1, IsPlainKey key := by
  induction plain generalizing node with
  | @intro fault hplain _ ih =>
      rw [nodes_eq] at h
      rcases List.mem_cons.1 h with rfl | hbelow
      · simp
      · rcases List.mem_flatMap.1 hbelow with ⟨entry, hentry, hnode⟩
        rcases List.mem_map.1 hnode with ⟨inner, hinner, rfl⟩
        exact List.forall_mem_cons.2 ⟨hplain entry hentry, ih entry hentry hinner⟩

/-- By induction on the keys: each is put behind a dot. -/
theorem foldl_childPath_of_ne {path : String} (h : path ≠ "") (keys : List String) :
    keys.foldl childPath path = ".".intercalate (path :: keys) := by
  induction keys generalizing path with
  | nil => exact String.intercalate_singleton.symm
  | cons key keys ih =>
      have hpath : childPath path key = path ++ "." ++ key := if_neg h
      have hnext : path ++ "." ++ key ≠ "" := by simp
      calc (key :: keys).foldl childPath path
          = keys.foldl childPath (path ++ "." ++ key) := by rw [List.foldl_cons, hpath]
        _ = ".".intercalate ((path ++ "." ++ key) :: keys) := ih hnext
        _ = path ++ "." ++ ".".intercalate (key :: keys) := String.intercalate_cons_append
        _ = ".".intercalate (path :: key :: keys) := String.intercalate_cons_cons.symm

/-- From the root, plain keys are joined by dots. -/
theorem foldl_childPath (plain : ∀ key ∈ keys, IsPlainKey key) :
    keys.foldl childPath "" = ".".intercalate keys := by
  cases keys with
  | nil => rfl
  | cons key keys =>
      have hpath : childPath "" key = key := if_pos rfl
      rw [List.foldl_cons, hpath]
      exact foldl_childPath_of_ne (plain key List.mem_cons_self).1 keys

/-- Plain keys that are joined by dots are read back. -/
theorem pathKeys_intercalate (plain : ∀ key ∈ keys, IsPlainKey key) :
    pathKeys (".".intercalate keys) = keys := by
  cases hnil : keys with
  | nil => rfl
  | cons first rest =>
      have hdots : ∀ text ∈ keys.map String.toList, '.' ∉ text := by
        intro text htext
        rcases List.mem_map.1 htext with ⟨key, hkey, rfl⟩
        exact (plain key hkey).2
      have hparts : (".".intercalate keys).toList.splitOn '.' = keys.map String.toList := by
        rw [String.toList_intercalate]
        exact List.splitOn_intercalate '.' hdots (by simp [hnil])
      -- No part is empty, so none is left out.
      have hfull : ((keys.map String.toList).filter (!·.isEmpty)) = keys.map String.toList := by
        apply List.filter_eq_self.2
        intro text htext
        rcases List.mem_map.1 htext with ⟨key, hkey, rfl⟩
        simpa using (plain key hkey).1
      rw [← hnil, pathKeys, hparts, hfull, List.map_map]
      simp [Function.comp_def]

/-! ## Paths of leaves -/

/-- The leaves in preorder, under their keys joined by dots. -/
theorem leaves_eq (plain : fault.HasPlainKeys) :
    fault.leaves = (fault.nodes.filter (·.2.isLeaf)).map fun node =>
      (".".intercalate node.1, node.2) := by
  apply (leavesFrom_eq_map "" fault).trans
  apply List.map_congr_left
  intro node hnode
  rw [foldl_childPath (plain.of_mem_nodes (List.mem_filter.1 hnode).1)]

/-- The path of a node, leaf or not, leads back to it. -/
theorem find?_intercalate (keyed : fault.Keyed) (plain : fault.HasPlainKeys)
    {node : List String × Fault} (h : node ∈ fault.nodes) :
    fault.find? (".".intercalate node.1) = some node.2 := by
  have hkeys : pathKeys (".".intercalate node.1) = node.1 :=
    pathKeys_intercalate (plain.of_mem_nodes h)
  rw [find?, hkeys]
  exact (mem_nodes_iff keyed).1 h

/-- Different leaves have different paths, for the keys can be read back. -/
theorem nodup_leaves (keyed : fault.Keyed) (plain : fault.HasPlainKeys) :
    (fault.leaves.map (·.1)).Nodup := by
  have hpaths : fault.leaves.map (·.1) =
      ((fault.nodes.filter (·.2.isLeaf)).map (·.1)).map (".".intercalate ·) := by
    rw [leaves_eq plain, List.map_map, List.map_map]
    rfl
  have hsome : ((fault.nodes.filter (·.2.isLeaf)).map (·.1)).Nodup :=
    (nodup_nodes keyed).sublist (List.filter_sublist.map _)
  have hread : ∀ keys ∈ (fault.nodes.filter (·.2.isLeaf)).map (·.1),
      pathKeys (".".intercalate keys) = keys := by
    intro keys hkeys
    rcases List.mem_map.1 hkeys with ⟨node, hnode, rfl⟩
    exact pathKeys_intercalate (plain.of_mem_nodes (List.mem_filter.1 hnode).1)
  rw [hpaths]
  apply hsome.map_on
  intro keys hkeys others hothers hsame
  calc keys = pathKeys (".".intercalate keys) := (hread keys hkeys).symm
    _ = pathKeys (".".intercalate others) := congrArg pathKeys hsame
    _ = others := hread others hothers

/-- In a tree whose keys are not empty and have no dots in them, the leaves are listed in preorder,
each of them once: they are those of the nodes that are present and have no present child, where the
nodes are all that keys lead to.  No two leaves have the same path, and the path of a leaf is read
as the keys of this leaf and leads back to it.  No leaf is listed exactly if nothing is present. -/
theorem leaves_find {fault : Fault} (keyed : fault.Keyed) (plain : fault.HasPlainKeys) :
    (fault.leaves = (fault.nodes.filter (·.2.isLeaf)).map fun node =>
        (".".intercalate node.1, node.2)) ∧
      (∀ keys node, (keys, node) ∈ fault.nodes ↔ fault.follow? keys = some node) ∧
      (fault.nodes.map (·.1)).Nodup ∧ (fault.leaves.map (·.1)).Nodup ∧
      (∀ node ∈ fault.nodes, pathKeys (".".intercalate node.1) = node.1) ∧
      (∀ path leaf, (path, leaf) ∈ fault.leaves → fault.find? path = some leaf) ∧
      (fault.leaves = [] ↔ fault.isPresent = false) := by
  refine ⟨leaves_eq plain, fun _ _ => mem_nodes_iff keyed, nodup_nodes keyed,
    nodup_leaves keyed plain, fun node hnode => pathKeys_intercalate (plain.of_mem_nodes hnode), ?_,
    leavesFrom_eq_nil_iff⟩
  intro path leaf hleaf
  rw [leaves_eq plain] at hleaf
  rcases List.mem_map.1 hleaf with ⟨node, hnode, hsame⟩
  cases hsame
  exact find?_intercalate keyed plain (List.mem_filter.1 hnode).1

/-- A tree with two leaves, a placeholder beside one of them, and a child below which there is
nothing but a placeholder. -/
theorem leaves_find_nested :
    let int := new "int" "Invalid integer"
    let user : Fault := ⟨some "arrays", none, [("name", empty), ("age", int)]⟩
    let fault : Fault :=
      ⟨some "arrays", none, [("user", user), ("rest", ⟨none, none, [("a", empty)]⟩), ("id", int)]⟩
    fault.Keyed ∧ fault.HasPlainKeys ∧ fault.leaves = [("user.age", int), ("id", int)] ∧
      fault.nodes.map (·.1) =
        [[], ["user"], ["user", "name"], ["user", "age"], ["rest"], ["rest", "a"], ["id"]] ∧
      pathKeys "user.age" = ["user", "age"] ∧ fault.find? "user.age" = some int ∧
      (fault.leaves.map (·.1)).Nodup ∧ (fault.leaves = [] ↔ fault.isPresent = false) := by
  intro int user fault
  -- The nodes without children have no keys to look at.
  have hbare : ∀ code message, Keyed ⟨code, message, []⟩ := fun _ _ =>
    .intro List.nodup_nil (List.forall_mem_nil _)
  have huser : user.Keyed := .intro (by decide)
    (List.forall_mem_cons.2 ⟨hbare _ _, List.forall_mem_singleton.2 (hbare _ _)⟩)
  have hrest : Keyed ⟨none, none, [("a", empty)]⟩ :=
    .intro (by decide) (List.forall_mem_singleton.2 (hbare _ _))
  have hkeyed : fault.Keyed := .intro (by decide)
    (List.forall_mem_cons.2 ⟨huser,
      List.forall_mem_cons.2 ⟨hrest, List.forall_mem_singleton.2 (hbare _ _)⟩⟩)
  have hnoKeys : ∀ code message, HasPlainKeys ⟨code, message, []⟩ := fun _ _ =>
    .intro (List.forall_mem_nil _) (List.forall_mem_nil _)
  have huserKeys : user.HasPlainKeys := .intro (by decide)
    (List.forall_mem_cons.2 ⟨hnoKeys _ _, List.forall_mem_singleton.2 (hnoKeys _ _)⟩)
  have hrestKeys : HasPlainKeys ⟨none, none, [("a", empty)]⟩ :=
    .intro (by decide) (List.forall_mem_singleton.2 (hnoKeys _ _))
  have hplain : fault.HasPlainKeys := .intro (by decide)
    (List.forall_mem_cons.2 ⟨huserKeys,
      List.forall_mem_cons.2 ⟨hrestKeys, List.forall_mem_singleton.2 (hnoKeys _ _)⟩⟩)
  rcases leaves_find hkeyed hplain with ⟨hleaves, hnodes, _, hdistinct, hread, hfind, hnone⟩
  have hlisted : fault.leaves = [("user.age", int), ("id", int)] := hleaves.trans rfl
  have hnode : (["user", "age"], int) ∈ fault.nodes := (hnodes ["user", "age"] int).2 rfl
  refine ⟨hkeyed, hplain, hlisted, rfl, ?_, ?_, hdistinct, hnone⟩
  · exact hread (["user", "age"], int) hnode
  · exact hfind "user.age" int (hlisted ▸ List.mem_cons_self)

end Assay.Fault
