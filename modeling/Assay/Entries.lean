/-!
# Entries — keyed sequences

A map is the list of its entries, in the order in which the keys first came.  `List.lookup` reads
it; the operations here write it.

* `put` gives a key its value: in its place if it has one, else at the end;
* `alter` changes the value of a key, which may be new;
* `putSorted` gives a key its value where keys ascend;
* `remove` takes an entry out and keeps the order of the others.
-/

namespace Assay.Entries

variable {α : Type}

def keys (entries : List (String × α)) : List String := entries.map (·.1)

/-- Gives a key its value, in its place if it has one, else at the end. -/
def put (key : String) (value : α) : List (String × α) → List (String × α)
  | [] => [(key, value)]
  | (k, v) :: rest => if k = key then (k, value) :: rest else (k, v) :: put key value rest

/-- The entries of a list of pairs: a repeated key keeps its first place and its last value. -/
def ofPairs (pairs : List (String × α)) : List (String × α) :=
  pairs.foldl (fun entries pair => put pair.1 pair.2 entries) []

/-- Changes the value of a key in its place; a key without one starts from `empty` at the end. -/
def alter (key : String) (empty : α) (change : α → α) : List (String × α) → List (String × α)
  | [] => [(key, change empty)]
  | (k, v) :: rest =>
    if k = key then (k, change v) :: rest else (k, v) :: alter key empty change rest

def remove (key : String) (entries : List (String × α)) : List (String × α) :=
  entries.filter (·.1 != key)

/-- Gives a key its value where keys ascend. -/
def putSorted (key : String) (value : α) : List (String × α) → List (String × α)
  | [] => [(key, value)]
  | (k, v) :: rest =>
    if k = key then (k, value) :: rest
    else if key < k then (key, value) :: (k, v) :: rest
    else (k, v) :: putSorted key value rest

/-- The entries of a list of pairs in ascending order; of a repeated key the last value stays. -/
def sortedOfPairs (pairs : List (String × α)) : List (String × α) :=
  pairs.foldl (fun entries pair => putSorted pair.1 pair.2 entries) []

/-! ## Keys -/

/-- To put what is new at the end keeps members distinct. -/
theorem nodup_concat [DecidableEq α] {members : List α} (h : members.Nodup) (x : α) :
    (if x ∈ members then members else members ++ [x]).Nodup := by
  split
  · exact h
  · rename_i hnew
    refine List.nodup_append.2 ⟨h, by simp, fun y hy z hz => ?_⟩
    cases List.mem_singleton.1 hz
    rintro rfl
    exact hnew hy

/-- A key that is new comes last, and otherwise the keys stay as they are. -/
theorem keys_put (key : String) (value : α) (entries : List (String × α)) :
    keys (put key value entries) =
      if key ∈ keys entries then keys entries else keys entries ++ [key] := by
  induction entries with
  | nil => rfl
  | cons entry rest ih =>
      rcases entry with ⟨k, v⟩
      by_cases hkey : k = key
      · simp [put, keys, hkey]
      · have hput : keys (put key value ((k, v) :: rest)) = k :: keys (put key value rest) := by
          simp [put, keys, hkey]
        have hmem : key ∈ keys ((k, v) :: rest) ↔ key ∈ keys rest := by
          simp [keys, Ne.symm hkey]
        rw [hput, ih]
        by_cases hrest : key ∈ keys rest
        · rw [if_pos hrest, if_pos (hmem.2 hrest)]
          rfl
        · rw [if_neg hrest, if_neg fun h => hrest (hmem.1 h)]
          rfl

/-- Putting an entry leaves the keys distinct. -/
theorem nodup_keys_put {entries : List (String × α)} (h : (keys entries).Nodup) (key : String)
    (value : α) : (keys (put key value entries)).Nodup := by
  rw [keys_put]
  exact nodup_concat h key

/-- The entries of a list of pairs have distinct keys. -/
theorem nodup_keys_ofPairs (pairs : List (String × α)) : (keys (ofPairs pairs)).Nodup := by
  have hfold : ∀ entries : List (String × α), (keys entries).Nodup →
      (keys (pairs.foldl (fun entries pair => put pair.1 pair.2 entries) entries)).Nodup := by
    induction pairs with
    | nil => exact fun _ h => h
    | cons pair rest ih =>
        intro entries h
        exact ih _ (nodup_keys_put h pair.1 pair.2)
  exact hfold [] List.nodup_nil

/-- A key that is new starts from nothing at the end. -/
theorem alter_of_not_mem {key : String} {entries : List (String × α)} (h : key ∉ keys entries)
    (empty : α) (change : α → α) :
    alter key empty change entries = entries ++ [(key, change empty)] := by
  induction entries with
  | nil => rfl
  | cons entry rest ih =>
      have hkey : entry.1 ≠ key := fun hsame => h (hsame ▸ List.mem_cons_self)
      have hrest : key ∉ keys rest := fun hmem => h (List.mem_cons_of_mem _ hmem)
      rw [alter, if_neg hkey, ih hrest]
      rfl

/-- Where keys are distinct, every entry is found under its key. -/
theorem lookup_eq_some_iff_mem {entries : List (String × α)} (h : (keys entries).Nodup)
    {key : String} {value : α} : entries.lookup key = some value ↔ (key, value) ∈ entries := by
  induction entries with
  | nil => simp
  | cons entry rest ih =>
      rcases entry with ⟨k, v⟩
      rcases List.nodup_cons.1 h with ⟨hnew, hrest⟩
      by_cases hkey : key = k
      · subst hkey
        have hother : (key, value) ∉ rest := fun hmem =>
          hnew (List.mem_map.2 ⟨_, hmem, rfl⟩)
        simp [hother, eq_comm]
      · rw [List.lookup_cons, beq_false_of_ne hkey, ih hrest]
        simp [hkey]

/-- What is found after a change of all values is the changed value. -/
theorem lookup_map {β : Type} (f : α → β) (entries : List (String × α)) (key : String) :
    (entries.map fun entry => (entry.1, f entry.2)).lookup key = (entries.lookup key).map f := by
  induction entries with
  | nil => rfl
  | cons entry rest ih =>
      rw [List.map_cons, List.lookup_cons, List.lookup_cons, ih]
      cases key == entry.1 <;> rfl

/-! ## Sizes -/

/-- What is found is smaller than where it is found. -/
theorem sizeOf_lookup_lt [SizeOf α] {entries : List (String × α)} {key : String} {value : α}
    (h : entries.lookup key = some value) : sizeOf value < sizeOf entries := by
  induction entries with
  | nil => simp at h
  | cons entry rest ih =>
    obtain ⟨k, v⟩ := entry
    rw [List.lookup_cons] at h
    split at h
    · cases h
      simp
      omega
    · have := ih h
      simp
      omega

end Assay.Entries
