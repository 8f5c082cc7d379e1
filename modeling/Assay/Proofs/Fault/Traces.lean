import Assay.Proofs.Fault.Nodes

/-!
# Traces — which leaves a text tells of

The text of a tree lists the leaves below the root by their paths.  It takes the empty path for that
of the root, but an empty key that comes first leaves no trace in a path: a leaf to which only empty
keys lead has the empty path as well, and the text passes over it.

* `Fault.leavesBelow` lists the leaves below the root by the keys that lead to them;
* `Fault.pathOf_eq_empty_iff` states which keys leave no trace;
* `Fault.display_eq` states which leaves a text tells of, and `Fault.display_complete_iff` when
  these are all.
-/

namespace Assay.Fault

/-- The path of a node, as it is listed. -/
def pathOf (keys : List String) : String := keys.foldl childPath ""

/-- The leaves below the root in preorder, with the keys that lead to them. -/
def leavesBelow (fault : Fault) : List (List String × Fault) :=
  fault.nodes.filter fun node => node.2.isLeaf && !node.1.isEmpty

/-- What a text says of a leaf: its path and its code. -/
def entryText (leaf : List String × Fault) : String :=
  pathOf leaf.1 ++ ": " ++ leaf.2.code.getD "invalid"

def parenthesized (entries : List String) : String :=
  if entries.isEmpty then "" else " (" ++ ", ".intercalate entries ++ ")"

/-- The text that has an entry for each of these leaves, in order, and nothing else. -/
def textWith (fault : Fault) (leaves : List (List String × Fault)) : String :=
  fault.headline ++ parenthesized (leaves.map entryText)

def leavesTrace (keys : List String) : Bool := keys.any (· != "")

/-! ## Paths -/

/-- By induction on the keys: a path that is not empty only grows. -/
theorem foldl_childPath_ne_empty {path : String} (h : path ≠ "") (keys : List String) :
    keys.foldl childPath path ≠ "" := by
  induction keys generalizing path with
  | nil => exact h
  | cons key keys ih =>
      have hpath : childPath path key = path ++ "." ++ key := if_neg h
      rw [List.foldl_cons, hpath]
      exact ih (by simp)

/-- The empty path belongs to the root, and to nodes to which only empty keys lead. -/
theorem pathOf_eq_empty_iff {keys : List String} : pathOf keys = "" ↔ ∀ key ∈ keys, key = "" := by
  unfold pathOf
  induction keys with
  | nil => simp
  | cons key keys ih =>
      have hpath : childPath "" key = key := if_pos rfl
      rw [List.foldl_cons, hpath, List.forall_mem_cons]
      by_cases hkey : key = ""
      · rw [hkey, ih]
        simp
      · have hgrows := foldl_childPath_ne_empty hkey keys
        simp [hkey, hgrows]

/-- A path leaves a trace if one of its keys does. -/
theorem leavesTrace_iff {keys : List String} :
    leavesTrace keys = true ↔ ∃ key ∈ keys, key ≠ "" := by
  simp [leavesTrace]

/-- A path leaves a trace exactly if it is not written as the empty text. -/
theorem leavesTrace_eq (keys : List String) : leavesTrace keys = (pathOf keys != "") := by
  rw [Bool.eq_iff_iff, leavesTrace_iff, bne_iff_ne, Ne, pathOf_eq_empty_iff]
  simp

/-! ## Texts -/

/-- A text tells of the leaves that leave a trace. -/
theorem display_eq (fault : Fault) :
    fault.display = fault.textWith (fault.leavesBelow.filter (leavesTrace ·.1)) := by
  have hlisted : (fault.leaves.filter fun leaf => leaf.1 != "") =
      (fault.leavesBelow.filter (leavesTrace ·.1)).map fun node => (pathOf node.1, node.2) := by
    have hleaves : fault.leaves = (fault.nodes.filter (·.2.isLeaf)).map fun node =>
        (pathOf node.1, node.2) := leavesFrom_eq_map "" fault
    rw [hleaves, List.filter_map, leavesBelow, List.filter_filter, List.filter_filter]
    congr 1
    apply List.filter_congr
    rintro ⟨keys, node⟩ _
    -- The root has no keys, so that it leaves no trace either.
    cases keys with
    | nil => simp [leavesTrace, pathOf]
    | cons key keys => simp [← leavesTrace_eq, Bool.and_comm]
  unfold display textWith parenthesized
  dsimp only
  rw [hlisted, List.isEmpty_map, List.isEmpty_map, List.map_map]
  rfl

/-- How much room the entries take, each with a separator. -/
def room : List String → Nat
  | [] => 0
  | entry :: rest => entry.length + 2 + room rest

theorem room_cons (entry : String) (rest : List String) :
    room (entry :: rest) = entry.length + 2 + room rest := rfl

/-- The room that entries take is their length with the separators. -/
theorem length_intercalate (entries : List String) (h : entries ≠ []) :
    (", ".intercalate entries).length + 2 = room entries := by
  induction entries with
  | nil => exact absurd rfl h
  | cons entry rest ih =>
      cases rest with
      | nil => simp [room]
      | cons next rest =>
          have hrest := ih (by simp)
          have hseparator : ", ".length = 2 := rfl
          rw [String.intercalate_cons_cons, String.length_append, String.length_append, hseparator,
            room_cons]
          omega

theorem room_eq_zero_iff {entries : List String} : room entries = 0 ↔ entries = [] := by
  cases entries with
  | nil => simp [room]
  | cons entry rest => simp [room]

theorem length_parenthesized (entries : List String) :
    (parenthesized entries).length = if room entries = 0 then 0 else room entries + 1 := by
  unfold parenthesized
  by_cases hentries : entries = []
  · simp [hentries, room]
  · have hroom := length_intercalate entries hentries
    have hmarks : " (".length = 2 ∧ ")".length = 1 := ⟨rfl, rfl⟩
    simp only [List.isEmpty_iff, hentries, room_eq_zero_iff, if_false, String.length_append,
      hmarks.1, hmarks.2]
    omega

/-- Each entry is chosen or left out. -/
theorem room_filter {α : Type} (p : α → Bool) (entry : α → String) (xs : List α) :
    room ((xs.filter p).map entry) + room ((xs.filter (!p ·)).map entry) = room (xs.map entry) := by
  induction xs with
  | nil => rfl
  | cons x xs ih =>
      cases hx : p x <;> simp [hx, room_cons] <;> omega

/-- Entries that are left out are missed in the text, which is shorter without them. -/
theorem parenthesized_filter_eq_iff {α : Type} (p : α → Bool) (entry : α → String) (xs : List α) :
    parenthesized ((xs.filter p).map entry) = parenthesized (xs.map entry) ↔
      ∀ x ∈ xs, p x = true := by
  constructor
  · intro hsame
    have hlength := congrArg String.length hsame
    have hsplit := room_filter p entry xs
    have hnone : room ((xs.filter (!p ·)).map entry) = 0 := by
      rw [length_parenthesized, length_parenthesized] at hlength
      split at hlength <;> split at hlength <;> omega
    rw [room_eq_zero_iff, List.map_eq_nil_iff, List.filter_eq_nil_iff] at hnone
    intro x hx
    simpa using hnone x hx
  · intro hall
    rw [List.filter_eq_self.2 hall]

/-! ## Which leaves are told of -/

/-- The leaves below a fault are those that some keys lead to. -/
theorem mem_leavesBelow_iff {fault leaf : Fault} {keys : List String} (keyed : fault.Keyed) :
    (keys, leaf) ∈ fault.leavesBelow ↔
      keys ≠ [] ∧ fault.follow? keys = some leaf ∧ leaf.isLeaf = true := by
  rw [leavesBelow, List.mem_filter, mem_nodes_iff keyed]
  simp [and_comm, and_left_comm]

/-- No two leaves lie behind the same keys. -/
theorem nodup_leavesBelow {fault : Fault} (keyed : fault.Keyed) :
    (fault.leavesBelow.map (·.1)).Nodup :=
  (nodup_nodes keyed).sublist (List.filter_sublist.map _)

/-- Among the leaves below the root are all that keys lead to, each of them once.  The text of the
tree has one entry for each of them, in order, exactly if a key that is not empty leads to each of
them; and exactly then only the root is listed under the empty path.  In any case the text tells of
the leaves that such a key leads to, and of no others. -/
theorem display_complete_iff {fault : Fault} (keyed : fault.Keyed) :
    (∀ keys leaf, (keys, leaf) ∈ fault.leavesBelow ↔
        keys ≠ [] ∧ fault.follow? keys = some leaf ∧ leaf.isLeaf = true) ∧
      (fault.leavesBelow.map (·.1)).Nodup ∧
      fault.leaves = (fault.nodes.filter (·.2.isLeaf)).map (fun node => (pathOf node.1, node.2)) ∧
      fault.display = fault.textWith (fault.leavesBelow.filter (leavesTrace ·.1)) ∧
      ((∀ leaf ∈ fault.leavesBelow, pathOf leaf.1 ≠ "") ↔
        ∀ leaf ∈ fault.leavesBelow, ∃ key ∈ leaf.1, key ≠ "") ∧
      (fault.display = fault.textWith fault.leavesBelow ↔
        ∀ leaf ∈ fault.leavesBelow, ∃ key ∈ leaf.1, key ≠ "") := by
  have hpath : ∀ keys : List String, pathOf keys ≠ "" ↔ ∃ key ∈ keys, key ≠ "" := by
    intro keys
    rw [← leavesTrace_iff, leavesTrace_eq, bne_iff_ne]
  have hcomplete : fault.display = fault.textWith fault.leavesBelow ↔
      ∀ leaf ∈ fault.leavesBelow, leavesTrace leaf.1 = true := by
    rw [display_eq, textWith, textWith, String.append_right_inj]
    exact parenthesized_filter_eq_iff _ entryText fault.leavesBelow
  refine ⟨fun _ _ => mem_leavesBelow_iff keyed, nodup_leavesBelow keyed, leavesFrom_eq_map "" fault,
    display_eq fault, ?_, ?_⟩
  · exact forall₂_congr fun leaf _ => hpath leaf.1
  · rw [hcomplete]
    exact forall₂_congr fun leaf _ => leavesTrace_iff

/-- Of two leaves under empty keys, the one at the top is passed over. -/
theorem display_complete_iff_empty :
    let int := new "int" "Invalid integer"
    let fault : Fault := ⟨some "arrays", none, [("", int), ("a", ⟨none, none, [("", int)]⟩)]⟩
    fault.Keyed ∧ fault.leavesBelow = [([""], int), (["a", ""], int)] ∧
      fault.display = "arrays (a.: int)" ∧ fault.display ≠ fault.textWith fault.leavesBelow := by
  intro int fault
  have hint : int.Keyed := .intro List.nodup_nil (List.forall_mem_nil _)
  have hbelow : Keyed ⟨none, none, [("", int)]⟩ :=
    .intro (by decide) (List.forall_mem_singleton.2 hint)
  have hkeyed : fault.Keyed := .intro (by decide)
    (List.forall_mem_cons.2 ⟨hint, List.forall_mem_singleton.2 hbelow⟩)
  have hleaves : fault.leavesBelow = [([""], int), (["a", ""], int)] := rfl
  rcases display_complete_iff hkeyed with ⟨-, -, -, hdisplay, -, hcomplete⟩
  refine ⟨hkeyed, hleaves, hdisplay.trans (by decide), fun hsame => ?_⟩
  have htrace := hcomplete.1 hsame ([""], int) (hleaves ▸ List.mem_cons_self)
  exact absurd htrace (by decide)

/-- What an invalid integer under two empty keys leaves of a check: the leaf is listed as if it were
the root, and the text does not tell of it. -/
theorem display_hides_leaf :
    let int := new "int" "Invalid integer"
    let arrays := new "arrays" "Invalid array structure or member values"
    let fault := { arrays with children := [("", { arrays with children := [("", int)] })] }
    fault.leavesBelow = [(["", ""], int)] ∧ fault.leaves = [("", int)] ∧
      fault.display = "arrays: Invalid array structure or member values" ∧
      fault.display ≠ fault.textWith fault.leavesBelow := by
  intro int arrays fault
  have hdisplay : fault.display = "arrays: Invalid array structure or member values" := by decide
  have hfull : fault.textWith fault.leavesBelow =
      "arrays: Invalid array structure or member values (: int)" := by decide
  refine ⟨rfl, rfl, hdisplay, ?_⟩
  rw [hdisplay, hfull]
  decide

end Assay.Fault
