import Assay.Members
import Assay.Proofs.Number.Form
import Assay.Proofs.Value.Equality
import Assay.Proofs.Value.Place

/-!
# Keys — the members that are found and those that are listed

A container lists its keys, and it finds members at keys.  What is listed is found; but the index of
a list may be spelled in more ways than the one that is listed, and of a `values` container inside
another one nothing is listed although all its members are found.

* `Value.Names` relates a key to the index that it spells, and `Value.indexOfKey?_eq_some_iff` states
  that this is how keys are read;
* `Value.Unlisted` says how a key is found without being listed;
* `Value.hasMember_iff_listed` states that there is no other way.
-/

namespace Assay

namespace Numeral

/-! ## Leading zeros -/

/-- The last digit counts once, and all the others ten times. -/
theorem digitsValue_concat (digits : List Char) (last : Char) :
    digitsValue (digits ++ [last]) = 10 * digitsValue digits + (last.toNat - '0'.toNat) := by
  unfold digitsValue
  rw [Nat.ofDigitChars_append, Nat.ofDigitChars_cons]
  rfl

theorem digit_lt_ten {c : Char} (h : isAsciiDigit c = true) : c.toNat - '0'.toNat < 10 := by
  have hcode : 48 ≤ c.toNat ∧ c.toNat ≤ 57 := Char.isDigit_iff_toNat.1 h
  have hzero : '0'.toNat = 48 := rfl
  omega

/-- A digit is the decimal form of its value. -/
theorem toDigits_of_isAsciiDigit {c : Char} (h : isAsciiDigit c = true) :
    Nat.toDigits 10 (c.toNat - '0'.toNat) = [c] := by
  have hcode : 48 ≤ c.toNat ∧ c.toNat ≤ 57 := Char.isDigit_iff_toNat.1 h
  have hzero : '0'.toNat = 48 := rfl
  have hlt : c.toNat - '0'.toNat < 10 := digit_lt_ten h
  have hchar : (c.toNat - '0'.toNat).digitChar = c := by
    refine Char.toNat_inj.1 ?_
    rw [Nat.toNat_digitChar_of_lt_ten hlt]
    omega
  rw [Nat.toDigits_of_lt_base hlt, hchar]

/-- Digits are zeros and the decimal form of their value. -/
theorem exists_zeros {digits : List Char} (h : DigitsForm isAsciiDigit digits) :
    ∃ zeros, digits = List.replicate zeros '0' ++ Nat.toDigits 10 (digitsValue digits) := by
  -- On the last digit, which is what multiplying by ten and adding puts at the end.
  induction digits using List.reverseRecOn with
  | nil => exact absurd rfl h.nonempty
  | append_singleton init last ih =>
      have hall := List.all_eq_true.1 h.all
      have hdigit : isAsciiDigit last = true := hall last (by simp)
      have hbefore : init.all isAsciiDigit = true :=
        List.all_eq_true.2 fun c hc => hall c (List.mem_append_left _ hc)
      have hlast := toDigits_of_isAsciiDigit hdigit
      have hlt : last.toNat - '0'.toNat < 10 := digit_lt_ten hdigit
      rw [digitsValue_concat]
      by_cases hinit : init = []
      · subst hinit
        have hvalue : 10 * digitsValue [] + (last.toNat - '0'.toNat) = last.toNat - '0'.toNat :=
          Nat.zero_add _
        refine ⟨0, ?_⟩
        rw [hvalue, hlast]
        rfl
      · rcases ih ⟨hinit, hbefore⟩ with ⟨zeros, hzeros⟩
        by_cases hvalue : digitsValue init = 0
        · -- The digits before the last one are all zeros.
          refine ⟨zeros + 1, ?_⟩
          rw [hvalue] at hzeros ⊢
          rw [Nat.mul_zero, Nat.zero_add, hlast, hzeros, List.replicate_succ']
          rfl
        · have happend := Nat.toDigits_append_toDigits (by decide : 1 < 10)
            (Nat.pos_of_ne_zero hvalue) hlt
          refine ⟨zeros, ?_⟩
          calc init ++ [last]
              = List.replicate zeros '0' ++ Nat.toDigits 10 (digitsValue init) ++ [last] := by
                rw [← hzeros]
            _ = List.replicate zeros '0' ++
                  Nat.toDigits 10 (10 * digitsValue init + (last.toNat - '0'.toNat)) := by
                rw [List.append_assoc, ← hlast, happend]

/-- Leading zeros do not count. -/
theorem digitsValue_zeros (zeros index : Nat) :
    digitsValue (List.replicate zeros '0' ++ Nat.toDigits 10 index) = index := by
  have hzeros : ∀ zeros, Nat.ofDigitChars 10 (List.replicate zeros '0') 0 = 0 := by
    intro zeros
    induction zeros with
    | zero => rfl
    | succ zeros ih => rwa [List.replicate_succ, Nat.ofDigitChars_cons]
  unfold digitsValue
  rw [Nat.ofDigitChars_append, hzeros, Nat.ofDigitChars_ten_toDigits]

end Numeral

namespace Value

open Numeral

variable {raw : Value} {key : String} {index : Nat}

/-! ## Spellings of an index -/

/-- The key is the decimal form of the index, perhaps after zeros, and these perhaps after a plus. -/
def Names (key : String) (index : Nat) : Prop :=
  ∃ plus zeros, (plus = [] ∨ plus = ['+']) ∧
    key.toList = plus ++ (List.replicate zeros '0' ++ (toString index).toList)

/-- The decimal text of an index names it. -/
theorem names_toString (index : Nat) : Names (toString index) index := ⟨[], 0, .inl rfl, rfl⟩

theorem toList_toString (index : Nat) : (toString index).toList = Nat.toDigits 10 index := by
  rw [Nat.toString_eq_repr, Nat.toList_repr]

/-- The characters of a key that are read as digits: those after a plus, or all. -/
def indexDigits (key : String) : List Char :=
  match key.toList with
  | '+' :: rest => rest
  | text => text

theorem exists_plus (key : String) :
    ∃ plus, (plus = [] ∨ plus = ['+']) ∧ key.toList = plus ++ indexDigits key := by
  unfold indexDigits
  split
  · rename_i rest hrest
    exact ⟨['+'], .inr rfl, hrest⟩
  · exact ⟨[], .inl rfl, rfl⟩

theorem indexDigits_of_digits {plus digits : List Char} (isPlus : plus = [] ∨ plus = ['+'])
    (hkey : key.toList = plus ++ digits) (h : DigitsForm isAsciiDigit digits) :
    indexDigits key = digits := by
  unfold indexDigits
  rw [hkey]
  rcases isPlus with rfl | rfl
  · cases digits with
    | nil => rfl
    | cons first rest =>
        -- The first character is a digit and not a plus.
        have hhead : ∀ c ∈ (first :: rest ++ []).head?, c ≠ '+' ∧ c ≠ '-' :=
          h.head marksApart_ascii
        have hplus : first ≠ '+' := (hhead first rfl).1
        simp [hplus]
  · rfl

/-- A key is an index if its digits are digits, and their value fits into a machine word. -/
theorem indexOfKey?_iff_digits :
    indexOfKey? key = some index ↔
      DigitsForm isAsciiDigit (indexDigits key) ∧ digitsValue (indexDigits key) = index ∧
        index < 2 ^ 64 := by
  have hread : indexOfKey? key =
      if (indexDigits key).isEmpty || !(indexDigits key).all isAsciiDigit then none
      else if digitsValue (indexDigits key) < 2 ^ 64 then some (digitsValue (indexDigits key))
      else none := rfl
  rw [hread, ← digitsForm_iff]
  constructor
  · intro h
    split at h
    · cases h
    · rename_i hdigits
      split at h
      · rename_i hfits
        cases h
        exact ⟨eq_false_of_ne_true hdigits, rfl, hfits⟩
      · cases h
  · rintro ⟨hdigits, rfl, hfits⟩
    rw [hdigits, if_pos hfits]
    rfl

/-- A key is read as the index that it spells, if this fits into a machine word. -/
theorem indexOfKey?_eq_some_iff :
    indexOfKey? key = some index ↔ Names key index ∧ index < 2 ^ 64 := by
  rw [indexOfKey?_iff_digits]
  constructor
  · rintro ⟨hdigits, rfl, hfits⟩
    rcases exists_plus key with ⟨plus, isPlus, hkey⟩
    rcases exists_zeros hdigits with ⟨zeros, hzeros⟩
    refine ⟨⟨plus, zeros, isPlus, ?_⟩, hfits⟩
    rw [toList_toString, ← hzeros]
    exact hkey
  · rintro ⟨⟨plus, zeros, isPlus, hkey⟩, hfits⟩
    rw [toList_toString] at hkey
    have hform : DigitsForm isAsciiDigit
        (List.replicate zeros '0' ++ Nat.toDigits 10 index) := by
      refine ⟨by simp [Nat.toDigits_ne_nil], List.all_eq_true.2 fun c hc => ?_⟩
      rcases List.mem_append.1 hc with hzero | hdigit
      · rw [List.eq_of_mem_replicate hzero]
        decide
      · exact Nat.isDigit_of_mem_toDigits (by decide) (by decide) hdigit
    rw [indexDigits_of_digits isPlus hkey hform]
    exact ⟨hform, digitsValue_zeros zeros index, hfits⟩

/-- A key spells one index at most. -/
theorem Names.unique {other : Nat} (hkey : Names key index) (hother : Names key other)
    (fits : index < 2 ^ 64) (otherFits : other < 2 ^ 64) : index = other := by
  have hread := indexOfKey?_eq_some_iff.2 ⟨hkey, fits⟩
  rw [indexOfKey?_eq_some_iff.2 ⟨hother, otherFits⟩] at hread
  exact (Option.some.inj hread).symm

/-! ## Found and listed -/

/-- The key finds a member without being listed: it is another spelling of an index, or it belongs to
a `values` container inside another one. -/
inductive Unlisted : Value → String → Prop where
  | respelled {items : List Value} {key : String} {index : Nat} (names : Names key index)
      (inside : index < items.length) (other : key ≠ toString index) : Unlisted (list items) key
  | wrapped {identity : Option Nat} {raw : Value} {key : String} (mem : key ∈ raw.memberKeys) :
      Unlisted (values identity raw) key
  | nested {identity : Option Nat} {raw : Value} {key : String} (inner : Unlisted raw key) :
      Unlisted (values identity raw) key

theorem hasMember_values (identity : Option Nat) (raw : Value) (key : String) :
    (values identity raw).hasMember key = raw.hasMember key := rfl

theorem mem_indexKeys {items : List Value} :
    key ∈ indexKeys items ↔ ∃ index < items.length, key = toString index := by
  unfold indexKeys
  rw [List.mem_map]
  simp only [List.mem_range, eq_comm]

/-- A key leads to a member of a list if it names an index, whichever way that is written. -/
theorem hasMember_list {items : List Value} (short : items.length ≤ 2 ^ 64) :
    (list items).hasMember key = true ↔ ∃ index < items.length, Names key index := by
  have hmember : (list items).member? key = (indexOfKey? key).bind (items[·]?) := rfl
  unfold hasMember
  rw [hmember]
  constructor
  · intro h
    rcases Option.isSome_iff_exists.1 h with ⟨item, hitem⟩
    rcases Option.bind_eq_some_iff.1 hitem with ⟨index, hindex, hget⟩
    exact ⟨index, (List.getElem?_eq_some_iff.1 hget).1, (indexOfKey?_eq_some_iff.1 hindex).1⟩
  · rintro ⟨index, inside, names⟩
    have hindex : indexOfKey? key = some index :=
      indexOfKey?_eq_some_iff.2 ⟨names, Nat.lt_of_lt_of_le inside short⟩
    rw [hindex, Option.bind_some, List.getElem?_eq_getElem inside]
    rfl

/-- A map has exactly the members under its keys. -/
theorem hasMember_map {entries : List (String × Value)} :
    (map entries).hasMember key = true ↔ key ∈ Entries.keys entries := by
  have hmember : (map entries).member? key = entries.lookup key := rfl
  unfold hasMember Entries.keys
  rw [hmember, List.lookup_isSome_iff, List.mem_map]
  simp only [beq_iff_eq]
  exact exists_congr fun _ => and_congr_right fun _ => eq_comm

/-- A list answers to the other spellings of its indices without listing them. -/
theorem unlisted_list_iff {items : List Value} :
    (list items).Unlisted key ↔ ∃ index < items.length, Names key index ∧ key ≠ toString index := by
  constructor
  · rintro (⟨names, inside, other⟩)
    exact ⟨_, inside, names, other⟩
  · rintro ⟨index, inside, names, other⟩
    exact .respelled names inside other

/-- A wrapped value answers to all keys of what it wraps without listing them. -/
theorem unlisted_values_iff {identity : Option Nat} :
    (values identity raw).Unlisted key ↔ key ∈ raw.memberKeys ∨ raw.Unlisted key := by
  constructor
  · rintro (_ | mem | inner)
    · exact .inl mem
    · exact .inr inner
  · rintro (mem | inner)
    · exact .wrapped mem
    · exact .nested inner

/-- What is listed is found, and what is found is listed or unlisted. -/
theorem hasMember_iff (addressable : raw.core.Addressable) (key : String) :
    raw.hasMember key = true ↔ key ∈ raw.memberKeys ∨ raw.Unlisted key := by
  induction raw using wrapped_induction with
  | wrapped identity raw ih =>
      -- A container finds what the value inside finds, but lists nothing of it.
      have hnone : (values identity raw).memberKeys = [] := rfl
      rw [hasMember_values, ih addressable, hnone, unlisted_values_iff]
      simp
  | single value h =>
      rw [core_of_not_isWrapped h] at addressable
      cases value with
      | list items =>
          rw [hasMember_list addressable, unlisted_list_iff]
          change _ ↔ key ∈ indexKeys items ∨ _
          rw [mem_indexKeys]
          constructor
          · -- An index is listed under one of its spellings.
            rintro ⟨index, inside, names⟩
            by_cases hlisted : key = toString index
            · exact .inl ⟨index, inside, hlisted⟩
            · exact .inr ⟨index, inside, names, hlisted⟩
          · rintro (⟨index, inside, rfl⟩ | ⟨index, inside, names, -⟩)
            · exact ⟨index, inside, names_toString index⟩
            · exact ⟨index, inside, names⟩
      | map entries =>
          rw [hasMember_map]
          exact ⟨.inl, fun h => h.elim id nofun⟩
      | values => cases h
      | _ => exact ⟨nofun, fun h => h.elim nofun nofun⟩

/-- What is unlisted is not listed. -/
theorem Unlisted.not_mem (addressable : raw.core.Addressable) (h : raw.Unlisted key) :
    key ∉ raw.memberKeys := by
  cases h with
  | @respelled items _ index names inside other =>
      intro hmem
      rcases mem_indexKeys.1 hmem with ⟨listed, hlisted, rfl⟩
      have short : items.length ≤ 2 ^ 64 := addressable
      -- If the key were listed, it would spell a second index.
      have hsame : index = listed :=
        names.unique (names_toString listed) (by omega) (by omega)
      exact other (congrArg toString hsame.symm)
  | wrapped => exact List.not_mem_nil
  | nested => exact List.not_mem_nil

/-- A key is found if and only if it is listed or finds a member in one of the ways that are not
listed.  So both say the same of a key unless it is another spelling of an index of a list, or a key
of a `values` container inside another one. -/
theorem hasMember_iff_listed (addressable : raw.core.Addressable) (key : String) :
    (raw.hasMember key = true ↔ key ∈ raw.memberKeys ∨ raw.Unlisted key) ∧
    ((raw.hasMember key = true ↔ key ∈ raw.memberKeys) ↔ ¬ raw.Unlisted key) := by
  have hfound := hasMember_iff addressable key
  refine ⟨hfound, ?_, ?_⟩
  · intro hsame hunlisted
    exact hunlisted.not_mem addressable (hsame.1 (hfound.2 (.inr hunlisted)))
  · intro hlisted
    rw [hfound, or_iff_left hlisted]

/-- The second item of a list inside two `values` containers, under a plus and a zero. -/
theorem hasMember_iff_listed_nested :
    let raw := values none (list [null, str "a"])
    raw.core.Addressable ∧ raw.hasMember "+01" = true ∧
      ¬ (raw.hasMember "+01" = true ↔ "+01" ∈ raw.memberKeys) := by
  intro raw
  have haddressable : raw.core.Addressable := by
    change 2 ≤ 2 ^ 64
    decide
  have hnames : Names "+01" 1 := ⟨['+'], 1, .inr rfl, by decide⟩
  have hunlisted : raw.Unlisted "+01" :=
    .nested (.respelled hnames (by decide) (by decide))
  have htheorem := hasMember_iff_listed haddressable "+01"
  exact ⟨haddressable, htheorem.1.2 (.inr hunlisted), fun hsame => htheorem.2.1 hsame hunlisted⟩

/-- A list with one item finds it at two zeros, which it does not list; and a `values` container
around that list lists nothing, although it finds the item at its index. -/
theorem hasMember_unlisted :
    let items := list [str "a"]
    items.hasMember "00" = true ∧ "00" ∉ items.memberKeys ∧
      (values none items).hasMember "0" = true ∧ "0" ∉ (values none items).memberKeys := by
  decide

end Value

end Assay
