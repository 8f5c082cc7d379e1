import Assay.Proofs.FirstPlaces

/-!
# Joining — two keyed sequences in one

Two keyed sequences are joined under the keys of both: those of the first one keep their places, and
what is new in the second one comes behind them.  Where both have a value for a key, the two values
are combined.

* `Joined combine mine theirs both` says that `both` is such a sequence;
* `Joined.cons` joins a sequence entry by entry, `joined_put` and `joined_alter` join one entry;
* `Joined.assoc`, `Joined.self` and `Joined.of_nil` are the laws of joining, as far as the values
  obey them.
-/

namespace Assay.Entries

open FirstPlaces

variable {α : Type} {combine : α → α → α}

/-! ## Entries by their keys and values -/

theorem lookup_cons_ite (key : String) (value : α) (rest : List (String × α)) (name : String) :
    ((key, value) :: rest).lookup name = if name = key then some value else rest.lookup name := by
  by_cases hname : name = key
  · simp [hname]
  · rw [List.lookup_cons, beq_false_of_ne hname, if_neg hname]

theorem lookup_eq_none_of_not_mem {entries : List (String × α)} {key : String}
    (h : key ∉ keys entries) : entries.lookup key = none := by
  refine List.lookup_eq_none_iff.2 fun entry hentry => ?_
  have hne : key ≠ entry.1 := fun hsame => h (hsame ▸ List.mem_map_of_mem hentry)
  simpa using hne

/-- Entries with distinct keys are known by their keys and what is found under them. -/
theorem eq_of_lookup {xs ys : List (String × α)} (distinct : (keys xs).Nodup)
    (hkeys : keys xs = keys ys) (hvalues : ∀ key, xs.lookup key = ys.lookup key) : xs = ys := by
  induction xs generalizing ys with
  | nil =>
      have hnil : ys = [] := by simpa [keys] using hkeys.symm
      exact hnil.symm
  | cons entry rest ih =>
      rcases entry with ⟨key, value⟩
      rcases ys with _ | ⟨⟨other, found⟩, others⟩
      · cases hkeys
      · rcases List.cons.inj hkeys with ⟨rfl, hrest⟩
        rcases List.nodup_cons.1 distinct with ⟨hnew, hdistinct⟩
        have hfirst : value = found := by simpa using hvalues key
        have hothers : rest = others := by
          refine ih hdistinct hrest fun name => ?_
          by_cases hname : name = key
          · -- The first key comes in neither rest.
            have hsame : keys rest = keys others := hrest
            have habsent : key ∉ keys others := hsame ▸ hnew
            rw [hname, lookup_eq_none_of_not_mem hnew, lookup_eq_none_of_not_mem habsent]
          · have hlookup := hvalues name
            simpa [lookup_cons_ite, hname] using hlookup
        rw [hfirst, hothers]

/-- Entries in another order have the same values under their keys. -/
theorem lookup_of_perm {xs ys : List (String × α)} (distinct : (keys xs).Nodup) (perm : xs.Perm ys)
    (key : String) : xs.lookup key = ys.lookup key := by
  have hys : (keys ys).Nodup := (perm.map Prod.fst).nodup_iff.1 distinct
  refine Option.ext fun x => ?_
  rw [lookup_eq_some_iff_mem distinct, lookup_eq_some_iff_mem hys, perm.mem_iff]

/-- One sequence has the keys of two, each in its first place, and under each key what the two have
there. -/
structure Joined (combine : α → α → α) (mine theirs both : List (String × α)) : Prop where
  keys : keys both = (keys mine ++ keys theirs).eraseDups
  lookup : ∀ key, both.lookup key = Option.merge combine (mine.lookup key) (theirs.lookup key)

namespace Joined

variable {mine theirs both : List (String × α)}

theorem nodup (h : Joined combine mine theirs both) : (Entries.keys both).Nodup := by
  rw [h.keys]
  exact nodup_eraseDups _

/-! ## Entry by entry -/

/-- Joining with no entries changes nothing. -/
theorem nil (combine : α → α → α) (distinct : (Entries.keys mine).Nodup) :
    Joined combine mine [] mine := by
  refine ⟨?_, fun key => by simp⟩
  have hkeys : (Entries.keys mine).eraseDups = Entries.keys mine := eraseDups_of_nodup distinct
  simpa [Entries.keys] using hkeys.symm

/-- The entries of the second sequence can be joined one after the other. -/
theorem cons {key : String} {value : α} {next rest : List (String × α)}
    (hfirst : Joined combine mine [(key, value)] next) (hrest : Joined combine next rest both)
    (hnew : key ∉ Entries.keys rest) : Joined combine mine ((key, value) :: rest) both := by
  refine ⟨?_, fun name => ?_⟩
  · calc Entries.keys both
        = ((Entries.keys mine ++ [key]).eraseDups ++ Entries.keys rest).eraseDups := by
          rw [hrest.keys, hfirst.keys]
          rfl
      _ = (Entries.keys mine ++ Entries.keys ((key, value) :: rest)).eraseDups := by
          rw [eraseDups_append_left, List.append_assoc]
          rfl
  · rw [hrest.lookup, hfirst.lookup]
    by_cases hname : name = key
    · -- The key comes only once.
      have hnone : rest.lookup key = none := lookup_eq_none_of_not_mem hnew
      simp [hname, hnone]
    · simp [lookup_cons_ite, hname]

end Joined

/-- The keys after one more are those in their first places. -/
theorem keys_concat {mine next : List (String × α)} {key : String}
    (distinct : (keys mine).Nodup)
    (h : keys next = if key ∈ keys mine then keys mine else keys mine ++ [key]) :
    keys next = (keys mine ++ [key]).eraseDups := by
  rw [h, eraseDups_concat, eraseDups_of_nodup distinct]

/-- Putting an entry changes what is found under its key, and nothing else. -/
theorem lookup_put (key : String) (value : α) (entries : List (String × α)) (name : String) :
    (put key value entries).lookup name =
      if name = key then some value else entries.lookup name := by
  induction entries with
  | nil => simp [put, lookup_cons_ite]
  | cons entry rest ih =>
      rcases entry with ⟨k, v⟩
      by_cases hkey : k = key
      · by_cases hname : name = key <;> simp [put, lookup_cons_ite, hkey, hname]
      · by_cases hname : name = k
        · simp [put, hname, hkey]
        · simp [put, lookup_cons_ite, hkey, hname, ih]

/-- To put a value is to join an entry that wins. -/
theorem joined_put {mine : List (String × α)} (distinct : (keys mine).Nodup) (key : String)
    (value : α) : Joined (fun _ new => new) mine [(key, value)] (put key value mine) := by
  refine ⟨keys_concat distinct (keys_put key value mine), fun name => ?_⟩
  rw [lookup_put]
  by_cases hname : name = key
  · cases hlookup : mine.lookup key <;> simp [hname, hlookup]
  · simp [lookup_cons_ite, hname]

/-- Altering an entry adds its key at the end if there is none. -/
theorem keys_alter (key : String) (empty : α) (change : α → α) (entries : List (String × α)) :
    keys (alter key empty change entries) =
      if key ∈ keys entries then keys entries else keys entries ++ [key] := by
  induction entries with
  | nil => rfl
  | cons entry rest ih =>
      rcases entry with ⟨k, v⟩
      by_cases hkey : k = key
      · simp [alter, keys, hkey]
      · by_cases hrest : key ∈ keys rest <;>
          simp_all [alter, keys, Ne.symm hkey]

/-- Altering an entry changes what is found under its key, and nothing else. -/
theorem lookup_alter (key : String) (empty : α) (change : α → α) (entries : List (String × α))
    (name : String) :
    (alter key empty change entries).lookup name =
      if name = key then some (change ((entries.lookup key).getD empty))
      else entries.lookup name := by
  induction entries with
  | nil => simp [alter, lookup_cons_ite]
  | cons entry rest ih =>
      rcases entry with ⟨k, v⟩
      by_cases hkey : k = key
      · by_cases hname : name = key <;> simp [alter, lookup_cons_ite, hkey, hname]
      · have hother : ¬key = k := Ne.symm hkey
        by_cases hname : name = k
        · simp [alter, hname, hkey]
        · simp [alter, lookup_cons_ite, hkey, hother, hname, ih]

/-- To change the value of a key is to join an entry, if it is a copy where there was none. -/
theorem joined_alter {mine : List (String × α)} (distinct : (keys mine).Nodup) (key : String)
    {empty value : α} (copied : combine empty value = value) :
    Joined combine mine [(key, value)] (alter key empty (combine · value) mine) := by
  refine ⟨keys_concat distinct (keys_alter key empty _ mine), fun name => ?_⟩
  rw [lookup_alter]
  by_cases hname : name = key
  · cases hlookup : mine.lookup key <;> simp [hname, hlookup, copied]
  · simp [lookup_cons_ite, hname]

/-! ## Laws -/

namespace Joined

variable {first second third : List (String × α)}

/-- Three sequences can be joined from either side, if the values under each key can. -/
theorem assoc {firstTwo lastTwo left right : List (String × α)}
    (hfirst : Joined combine first second firstTwo) (hleft : Joined combine firstTwo third left)
    (hlast : Joined combine second third lastTwo) (hright : Joined combine first lastTwo right)
    (values : ∀ key x y z, first.lookup key = some x → second.lookup key = some y →
      third.lookup key = some z → combine (combine x y) z = combine x (combine y z)) :
    left = right := by
  refine eq_of_lookup hleft.nodup ?_ fun key => ?_
  · calc Entries.keys left
        = ((Entries.keys first ++ Entries.keys second) ++ Entries.keys third).eraseDups := by
          rw [hleft.keys, hfirst.keys, eraseDups_append_left]
      _ = Entries.keys right := by
          rw [hright.keys, hlast.keys, eraseDups_append_right, List.append_assoc]
  · rw [hleft.lookup, hfirst.lookup, hright.lookup, hlast.lookup]
    -- Only where all three have a value, there is something to show.
    cases hx : first.lookup key with
    | none => simp
    | some x =>
        cases hy : second.lookup key with
        | none => simp
        | some y =>
            cases hz : third.lookup key with
            | none => simp
            | some z => simpa using values key x y z hx hy hz

/-- A sequence that is joined to itself stays as it is, if its values do. -/
theorem self {both : List (String × α)} (h : Joined combine first first both)
    (distinct : (Entries.keys first).Nodup)
    (values : ∀ key x, first.lookup key = some x → combine x x = x) : both = first := by
  refine eq_of_lookup h.nodup ?_ fun key => ?_
  · exact h.keys.trans (eraseDups_append_self distinct)
  · rw [h.lookup]
    cases hx : first.lookup key with
    | none => rfl
    | some x => simpa using values key x hx

/-- What is joined to nothing stays as it is. -/
theorem of_nil {both : List (String × α)} (h : Joined combine [] first both)
    (distinct : (Entries.keys first).Nodup) : both = first := by
  refine eq_of_lookup h.nodup ?_ fun key => ?_
  · exact h.keys.trans (eraseDups_of_nodup distinct)
  · rw [h.lookup]
    simp

end Joined

end Assay.Entries
