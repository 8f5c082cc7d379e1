import Assay.Proofs.Ascending
import Assay.Proofs.Value.Reordering

/-!
# Documents — values that pass through documents

A value is written as a document and read back.  Objects, entities and `values` containers leave
only a trace of themselves there, and so do floats without digits; everything else comes back, but
for the order in which the entries of maps stand.

* `Value.IsPlain` says that there is nothing in a value but what documents have;
* `Value.sorted` puts the entries of all maps in a value in order;
* `Value.ofJson_toJson` states that a plain value comes back sorted.
-/

namespace Assay.Value

/-- Induction on the containers in a value. -/
theorem container_induction {motive : Value → Prop}
    (leaf : ∀ value, value.isContainer = false → motive value)
    (list : ∀ items, (∀ x ∈ items, motive x) → motive (list items))
    (map : ∀ entries, (∀ entry ∈ entries, motive entry.2) → motive (map entries))
    (value : Value) : motive value := by
  cases value with
  | list items =>
      refine list items fun x hx => ?_
      have hlt := List.sizeOf_lt_of_mem hx
      exact container_induction leaf list map x
  | map entries =>
      refine map entries fun entry hentry => ?_
      have hlt := List.sizeOf_lt_of_mem hentry
      exact container_induction leaf list map entry.2
  | _ => exact leaf _ rfl
termination_by sizeOf value
decreasing_by
  · simp
    omega
  · rcases entry with ⟨key, member⟩
    simp at hlt ⊢
    omega

/-! ## Plain values -/

/-- Documents have such a value, whatever its members. -/
def isPlainNode : Value → Bool
  | float x => x.isFinite
  | object _ | entity _ | values .. => false
  | _ => true

/-- A value consists of nothing but null, truth values, integers, finite floats, texts, lists and
maps. -/
def IsPlain (value : Value) : Prop := ∀ part, PartOf part value → part.isPlainNode = true

namespace IsPlain

/-- A list is plain if its items are. -/
theorem items_iff {items : List Value} :
    (list items).IsPlain ↔ ∀ x ∈ items, x.IsPlain := by
  constructor
  · exact fun h x hx part hpart => h part (.item hx hpart)
  · rintro h part (_ | ⟨hmem, hbelow⟩)
    · rfl
    · exact h _ hmem part hbelow

theorem entries_iff {entries : List (String × Value)} :
    (map entries).IsPlain ↔ ∀ entry ∈ entries, entry.2.IsPlain := by
  constructor
  · exact fun h entry hentry part hpart => h part (.entry hentry hpart)
  · rintro h part (_ | _ | ⟨hmem, hbelow⟩)
    · rfl
    · exact h _ hmem part hbelow

/-- A leaf is plain by itself. -/
theorem leaf_iff {value : Value} (h : value.isContainer = false) :
    value.IsPlain ↔ value.isPlainNode = true := by
  refine ⟨fun hplain => hplain value .self, fun hnode part hpart => ?_⟩
  cases hpart with
  | self => exact hnode
  | item => cases h
  | entry => cases h
  | contents => cases hnode

end IsPlain

/-! ## Documents, member by member -/

theorem itemsToJson_eq (items : List Value) : itemsToJson items = items.map toJson := by
  induction items with
  | nil => rfl
  | cons item rest ih => rw [itemsToJson, ih, List.map_cons]

theorem entriesToJson_eq (entries : List (String × Value)) :
    entriesToJson entries = entries.map fun entry => (entry.1, entry.2.toJson) := by
  induction entries with
  | nil => rfl
  | cons entry rest ih => rw [entriesToJson, ih, List.map_cons]

theorem itemsOfJson_eq (items : List Json) : itemsOfJson items = items.map ofJson := by
  induction items with
  | nil => rfl
  | cons item rest ih => rw [itemsOfJson, ih, List.map_cons]

theorem entriesOfJson_eq (members : List (String × Json)) :
    entriesOfJson members = members.map fun member => (member.1, ofJson member.2) := by
  induction members with
  | nil => rfl
  | cons member rest ih => rw [entriesOfJson, ih, List.map_cons]

/-- The entries of a map come back one by one, in the order of their keys. -/
theorem ofJson_toJson_map (entries : List (String × Value)) :
    ofJson (map entries).toJson =
      map (Entries.sortedOfPairs (entries.map fun entry => (entry.1, ofJson entry.2.toJson))) := by
  rw [toJson, ofJson, entriesToJson_eq, entriesOfJson_eq, ← Entries.sortedOfPairs_map, List.map_map]
  rfl

/-! ## Sorted values -/

mutual

/-- The value with the entries of every map in it, at any depth of lists and maps, sorted by their
keys. -/
def sorted : Value → Value
  | list items => list (sortedItems items)
  | map entries => map ((sortedEntries entries).mergeSort fun a b => a.1 ≤ b.1)
  | other => other
  termination_by structural value => value

def sortedItems : List Value → List Value
  | [] => []
  | item :: rest => item.sorted :: sortedItems rest
  termination_by structural items => items

def sortedEntries : List (String × Value) → List (String × Value)
  | [] => []
  | (key, member) :: rest => (key, member.sorted) :: sortedEntries rest
  termination_by structural entries => entries

end

theorem sorted_list (items : List Value) : (list items).sorted = list (items.map sorted) := by
  have hitems : ∀ items : List Value, sortedItems items = items.map sorted := by
    intro items
    induction items with
    | nil => rfl
    | cons item rest ih => rw [sortedItems, ih, List.map_cons]
  rw [sorted, hitems]

/-- Sorting a map sorts its values and then its entries. -/
theorem sorted_map {entries : List (String × Value)} (distinct : (Entries.keys entries).Nodup) :
    (map entries).sorted =
      map (Entries.sortedOfPairs (entries.map fun entry => (entry.1, entry.2.sorted))) := by
  have hentries : ∀ entries : List (String × Value),
      sortedEntries entries = entries.map fun entry => (entry.1, entry.2.sorted) := by
    intro entries
    induction entries with
    | nil => rfl
    | cons entry rest ih => rw [sortedEntries, ih, List.map_cons]
  rw [← Entries.keys_map sorted] at distinct
  rw [sorted, hentries, Entries.sortedOfPairs_eq_mergeSort distinct]

theorem sorted_leaf {value : Value} (h : value.isContainer = false) : value.sorted = value := by
  cases value with
  | list _ => cases h
  | map _ => cases h
  | _ => rfl

/-- By induction on what has not been reordered yet. -/
theorem Reordered.items {f : Value → Value} {items : List Value}
    (h : ∀ x ∈ items, Reordered x (f x)) : Reordered (list items) (list (items.map f)) := by
  have hafter : ∀ before : List Value,
      Reordered (list (before ++ items)) (list (before ++ items.map f)) := by
    induction items with
    | nil => exact fun before => .refl _
    | cons x rest ih =>
        intro before
        have hfirst := Reordered.item before rest (h x List.mem_cons_self)
        have hrest := ih (fun y hy => h y (List.mem_cons_of_mem _ hy)) (before ++ [f x])
        rw [List.append_assoc, List.append_assoc] at hrest
        exact hfirst.trans hrest
  exact hafter []

/-- A map is reordered entry by entry. -/
theorem Reordered.entries {f : Value → Value} {entries : List (String × Value)}
    (h : ∀ entry ∈ entries, Reordered entry.2 (f entry.2)) :
    Reordered (map entries) (map (entries.map fun entry => (entry.1, f entry.2))) := by
  have hafter : ∀ before : List (String × Value),
      Reordered (map (before ++ entries))
        (map (before ++ entries.map fun entry => (entry.1, f entry.2))) := by
    induction entries with
    | nil => exact fun before => .refl _
    | cons entry rest ih =>
        intro before
        have hfirst := Reordered.entry before entry.1 rest (h entry List.mem_cons_self)
        have hrest := ih (fun other hother => h other (List.mem_cons_of_mem _ hother))
          (before ++ [(entry.1, f entry.2)])
        rw [List.append_assoc, List.append_assoc] at hrest
        exact hfirst.trans hrest
  exact hafter []

/-- Maps are sorted where they stand, each after its members. -/
theorem reordered_sorted {value : Value} (distinct : value.KeysDistinct) :
    Reordered value value.sorted := by
  induction value using container_induction with
  | leaf value h => rw [sorted_leaf h]; exact .refl value
  | list items ih =>
      rw [sorted_list]
      exact .items fun x hx => ih x hx (distinct.of_part (.of_mem hx))
  | map entries ih =>
      rw [sorted_map distinct.own]
      have hmembers : Reordered (map entries)
          (map (entries.map fun entry => (entry.1, entry.2.sorted))) :=
        .entries fun entry hentry => ih entry hentry (distinct.of_part (.of_entry hentry))
      refine hmembers.trans (.order (Entries.sortedOfPairs_perm ?_).symm)
      rw [Entries.keys_map]
      exact distinct.own

/-- In a sorted value the entries of all maps ascend. -/
theorem ascending_sorted {value : Value} (plain : value.IsPlain) (distinct : value.KeysDistinct)
    {entries : List (String × Value)} (below : PartOf (map entries) value.sorted) :
    Entries.Ascending entries := by
  induction value using container_induction generalizing entries with
  | leaf value h =>
      -- Only `values` containers have something below them that is not their member.
      rw [sorted_leaf h] at below
      have hnode := (IsPlain.leaf_iff h).1 plain
      cases below with
      | self => cases h
      | item => cases h
      | entry => cases h
      | contents => cases hnode
  | list items ih =>
      rw [sorted_list] at below
      cases below with
      | item mem below =>
          rcases List.mem_map.1 mem with ⟨x, hx, rfl⟩
          exact ih x hx (IsPlain.items_iff.1 plain x hx) (distinct.of_part (.of_mem hx)) below
  | map others ih =>
      have hkeys := distinct.own
      rw [← Entries.keys_map sorted] at hkeys
      rw [sorted_map distinct.own] at below
      cases below with
      | self => exact Entries.ascending_sortedOfPairs _
      | entry mem below =>
          rcases List.mem_map.1 ((Entries.sortedOfPairs_perm hkeys).mem_iff.1 mem) with
            ⟨entry, hentry, hsame⟩
          cases hsame
          exact ih entry hentry (IsPlain.entries_iff.1 plain entry hentry)
            (distinct.of_part (.of_entry hentry)) below

/-- What is read of the document of a plain value. -/
theorem ofJson_toJson_eq {value : Value} (plain : value.IsPlain) (distinct : value.KeysDistinct) :
    ofJson value.toJson = value.sorted := by
  induction value using container_induction with
  | leaf value h =>
      have hnode := (IsPlain.leaf_iff h).1 plain
      rw [sorted_leaf h]
      cases value with
      | float x =>
          have hfinite : x.isFinite = true := hnode
          simp [toJson, hfinite, ofJson, ofNumber]
      | object _ => cases hnode
      | entity _ => cases hnode
      | values _ _ => cases hnode
      | list _ => cases h
      | map _ => cases h
      | _ => rfl
  | list items ih =>
      have hitems : items.map (ofJson ∘ toJson) = items.map sorted :=
        List.map_congr_left fun x hx =>
          ih x hx (IsPlain.items_iff.1 plain x hx) (distinct.of_part (.of_mem hx))
      rw [toJson, ofJson, itemsToJson_eq, itemsOfJson_eq, List.map_map, hitems, sorted_list]
  | map entries ih =>
      have hentries : (entries.map fun entry => (entry.1, ofJson entry.2.toJson)) =
          entries.map fun entry => (entry.1, entry.2.sorted) :=
        List.map_congr_left fun entry hentry => congrArg (Prod.mk entry.1) <|
          ih entry hentry (IsPlain.entries_iff.1 plain entry hentry)
            (distinct.of_part (.of_entry hentry))
      rw [ofJson_toJson_map, sorted_map distinct.own, hentries]

/-- A plain value comes back from its document with the entries of all maps sorted by their keys.
That is a reordering of maps and nothing else: integers are still integers, and floats still the
same floats.  In no map does a key come before a smaller one. -/
theorem ofJson_toJson {value : Value} (plain : value.IsPlain) (distinct : value.KeysDistinct) :
    ofJson value.toJson = value.sorted ∧ Reordered value value.sorted ∧
      ∀ entries, PartOf (map entries) value.sorted → Entries.Ascending entries :=
  ⟨ofJson_toJson_eq plain distinct, reordered_sorted distinct,
    fun _ below => ascending_sorted plain distinct below⟩

/-- A negative zero and the least integer in a list, and a map in the map, under a smaller key. -/
theorem ofJson_toJson_nested :
    let items := list [float (.finite true 0 Binary64.representable_zero), int Int64.minValue]
    let value := map [("b", items), ("a", map [("z", null), ("", str "b")])]
    value.IsPlain ∧ value.KeysDistinct ∧
      ofJson value.toJson = map [("a", map [("", str "b"), ("z", null)]), ("b", items)] := by
  intro items value
  have hplain : value.IsPlain := by
    simp only [value, items, IsPlain.items_iff, IsPlain.entries_iff, List.forall_mem_cons,
      List.not_mem_nil, false_implies, implies_true, and_true]
    refine ⟨⟨?_, ?_⟩, ?_, ?_⟩ <;> exact (IsPlain.leaf_iff rfl).2 rfl
  have hdistinct : value.KeysDistinct := by
    simp only [value, items, KeysDistinct.items_iff, KeysDistinct.entries_iff,
      List.forall_mem_cons, List.not_mem_nil, false_implies, implies_true, and_true]
    refine ⟨by decide, ⟨?_, ?_⟩, by decide, ?_, ?_⟩ <;> rintro _ ⟨⟩
  have hinner : (map [("z", null), ("", str "b")]).sorted = map [("", str "b"), ("z", null)] := by
    rw [sorted_map (by decide)]
    rfl
  refine ⟨hplain, hdistinct, (ofJson_toJson hplain hdistinct).1.trans ?_⟩
  have hitems : items.sorted = items := by
    rw [sorted_list]
    rfl
  have horder : "a" < "b" := by decide
  simp only [value, sorted_map hdistinct.own, List.map_cons, List.map_nil, hinner, hitems,
    Entries.sortedOfPairs, Entries.putSorted, List.foldl_cons, List.foldl_nil, String.reduceEq,
    horder, if_true, if_false]

end Assay.Value
