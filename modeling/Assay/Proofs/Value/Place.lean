import Assay.Proofs.Container.Visit

/-!
# Places — where the keys of a path lead in a value

The members of a list lie at their decimal indices, those of a map at their keys, and those of a
`values` container where they lie in what it holds.

* `Value.Leads value keys target` says that the keys lead from a value to a target in it;
* `Value.Addressable` says that every member has a key of its own;
* `Value.member?_of_mem_memberEntries` relates a single key to the reading of members.
-/

namespace Assay.Value

open Checker

/-- The keys lead from a value to what lies there. -/
inductive Leads : Value → List String → Value → Prop where
  | self (value : Value) : Leads value [] value
  | into {value member target : Value} {key : String} {keys : List String}
      (mem : (key, member) ∈ memberEntries value.contents) (leads : Leads member keys target) :
      Leads value (key :: keys) target

/-- Every member has a key of its own: a map has each of its keys once, and the indices of a list
fit into a machine word. -/
def Addressable : Value → Prop
  | .list items => items.length ≤ 2 ^ 64
  | .map entries => (Entries.keys entries).Nodup
  | _ => True

/-! ## Reading single members -/

/-- The decimal form of an index denotes it, as long as it fits into a machine word. -/
theorem indexOfKey?_toString {index : Nat} (h : index < 2 ^ 64) :
    indexOfKey? (toString index) = some index := by
  have hchars : (toString index).toList = Nat.toDigits 10 index := by
    rw [Nat.toString_eq_repr, Nat.toList_repr]
  have hall : ∀ c ∈ Nat.toDigits 10 index, isAsciiDigit c = true := fun c hc =>
    Nat.isDigit_of_mem_toDigits (by decide) (by decide) hc
  have hvalue : Numeral.digitsValue (Nat.toDigits 10 index) = index :=
    Nat.ofDigitChars_ten_toDigits
  unfold indexOfKey?
  rw [hchars]
  cases hdigits : Nat.toDigits 10 index with
  | nil => exact absurd hdigits Nat.toDigits_ne_nil
  | cons first rest =>
      rw [hdigits] at hall hvalue
      -- The first character is a digit and not a plus.
      have hplus : first ≠ '+' := by
        rintro rfl
        exact absurd (hall '+' (by simp)) (by decide)
      have hdigit := List.all_eq_true.2 hall
      simp [hplus, hdigit, hvalue, h]

theorem keys_memberEntries (value : Value) :
    Entries.keys (memberEntries value) = value.memberKeys := by
  cases value with
  | list items =>
      refine List.map_fst_zip ?_
      simp [indexKeys]
  | _ => rfl

/-- Different indices have different decimal forms. -/
theorem nodup_indexKeys {items : List Value} (short : items.length ≤ 2 ^ 64) :
    (indexKeys items).Nodup := by
  refine List.pairwise_map.2 ?_
  refine List.nodup_range.imp_of_mem fun {i j} hi hj hne hsame => hne ?_
  have hlt : ∀ index ∈ List.range items.length, index < 2 ^ 64 := fun index hindex =>
    Nat.lt_of_lt_of_le (List.mem_range.1 hindex) short
  have hdenoted : some i = some j := by
    rw [← indexOfKey?_toString (hlt i hi), ← indexOfKey?_toString (hlt j hj), hsame]
  exact Option.some.inj hdenoted

/-- The members of an addressable value have distinct keys. -/
theorem Addressable.nodup {value : Value} (h : value.Addressable) :
    (Entries.keys (memberEntries value)).Nodup := by
  rw [keys_memberEntries]
  cases value with
  | list items => exact nodup_indexKeys h
  | map entries => exact h
  | _ => exact List.nodup_nil

/-- The members of a list are found under their indices. -/
theorem member?_list {items : List Value} {entry : String × Value}
    (hmem : entry ∈ memberEntries (.list items)) (short : items.length ≤ 2 ^ 64) :
    (Value.list items).member? entry.1 = some entry.2 := by
  rcases List.mem_iff_getElem?.1 hmem with ⟨index, hindex⟩
  rcases List.getElem?_zip_eq_some.1 hindex with ⟨hkey, hitem⟩
  have hlt : index < items.length := (List.getElem?_eq_some_iff.1 hitem).1
  have hentry : entry.1 = toString index := by
    have hkeys : (indexKeys items)[index]? = some (toString index) := by
      simp [indexKeys, hlt]
    exact Option.some.inj (hkey.symm.trans hkeys)
  rw [hentry]
  change (indexOfKey? (toString index)).bind (items[·]?) = some entry.2
  rw [indexOfKey?_toString (Nat.lt_of_lt_of_le hlt short)]
  exact hitem

/-- An entry of a container is the member that is found at its key. -/
theorem member?_of_mem_memberEntries {value : Value} (addressable : value.Addressable)
    {entry : String × Value} (hmem : entry ∈ memberEntries value) :
    value.member? entry.1 = some entry.2 := by
  cases value with
  | list items => exact member?_list hmem addressable
  | map entries => exact (Entries.lookup_eq_some_iff_mem addressable).2 hmem
  | _ => cases hmem

end Assay.Value
