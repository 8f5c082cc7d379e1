import Assay.Proofs.Check.Normal
import Assay.Proofs.Number.Order

/-!
# Lengths — what a bound leaves of a text or container

A text, list or map that is too long loses its end.  Under a bound that is an integer, the longest
prefix that the bound allows is left.  Where an exclusive bound has a fraction, a cut takes off one
character or member more than that.

* `PrefixOf` and `LongestPrefix` say what may be left, and what is the most of it;
* `KeepsFirst` says that a check leaves the first so many characters or members and has a fault
  exactly if these are not all, and `keepsFirst_of_integer` states that inclusive and exclusive
  bounds do so;
* `less_fraction_longest_iff` states what is left under a fraction, and when it is the longest prefix
  below it.
-/

namespace Assay.Check

/-! ## Prefixes -/

/-- A text, list or map: its length is measured. -/
def hasLength : Value → Bool
  | .str _ | .list _ | .map _ => true
  | _ => false

/-- Of the same kind, and the other one begins with its characters or members. -/
inductive PrefixOf : Value → Value → Prop where
  | str {s t : String} : s.toList <+: t.toList → PrefixOf (.str s) (.str t)
  | list {xs ys : List Value} : xs <+: ys → PrefixOf (.list xs) (.list ys)
  | map {xs ys : List (String × Value)} : xs <+: ys → PrefixOf (.map xs) (.map ys)

/-- A prefix whose length is allowed, and no longer one is. -/
structure LongestPrefix (allowed : Nat → Prop) (first whole : Value) : Prop where
  isPrefix : PrefixOf first whole
  fits : allowed (lengthOf first)
  longest : ∀ other, PrefixOf other whole → allowed (lengthOf other) →
    lengthOf other ≤ lengthOf first

variable {value first : Value} {count : Nat}

/-- Truncating leaves a prefix. -/
theorem truncated_prefixOf (h : hasLength value = true) (count : Nat) :
    PrefixOf (truncated count value) value := by
  cases value with
  | str s => exact .str (by simpa using List.take_prefix count s.toList)
  | list items => exact .list (List.take_prefix count items)
  | map entries => exact .map (List.take_prefix count entries)
  | _ => cases h

/-- Truncating shortens to the count, unless the value is shorter. -/
theorem lengthOf_truncated_eq (count : Nat) (value : Value) :
    lengthOf (truncated count value) = Min.min count (lengthOf value) := by
  cases value with
  | str s =>
      have hcut : (s.toList.take count).length = Min.min count s.length := by
        rw [List.length_take, String.length_toList]
      simpa [truncated, lengthOf] using hcut
  | list items => exact List.length_take
  | map entries => exact List.length_take
  | _ => exact (Nat.min_zero count).symm

/-- What is short enough is not cut. -/
theorem truncated_of_le (h : lengthOf value ≤ count) : truncated count value = value := by
  cases value with
  | str s =>
      have hlength : s.toList.length ≤ count := String.length_toList ▸ h
      simp [truncated, List.take_of_length_le hlength]
  | list items => exact congrArg Value.list (List.take_of_length_le h)
  | map entries => exact congrArg Value.map (List.take_of_length_le h)
  | _ => rfl

theorem PrefixOf.hasLength (h : PrefixOf first value) : hasLength first = true := by
  cases h <;> rfl

/-- A prefix is not longer than its value. -/
theorem PrefixOf.lengthOf_le (h : PrefixOf first value) : lengthOf first ≤ lengthOf value := by
  cases h with
  | str hprefix =>
      have hlength := hprefix.length_le
      rwa [String.length_toList, String.length_toList] at hlength
  | list hprefix => exact hprefix.length_le
  | map hprefix => exact hprefix.length_le

/-- A cut at `count` is the longest prefix of at most `most` characters or members if both numbers
allow the same of this value. -/
theorem longestPrefix_truncated_iff {allowed : Nat → Prop} (count : Nat) {most : Nat}
    (hallowed : ∀ length, allowed length ↔ length ≤ most) (h : hasLength value = true) :
    LongestPrefix allowed (truncated count value) value ↔
      Min.min count (lengthOf value) = Min.min most (lengthOf value) := by
  have hmost : lengthOf (truncated most value) = Min.min most (lengthOf value) :=
    lengthOf_truncated_eq most value
  rw [← lengthOf_truncated_eq count value]
  constructor
  · intro hlongest
    -- Both cuts are allowed prefixes, so neither is longer than the other one.
    have hle : lengthOf (truncated count value) ≤ Min.min most (lengthOf value) :=
      Nat.le_min.2 ⟨(hallowed _).1 hlongest.fits, hlongest.isPrefix.lengthOf_le⟩
    have hge : lengthOf (truncated most value) ≤ lengthOf (truncated count value) :=
      hlongest.longest _ (truncated_prefixOf h most) ((hallowed _).2 (lengthOf_truncated most value))
    rw [hmost] at hge
    exact Nat.le_antisymm hle hge
  · intro hsame
    refine ⟨truncated_prefixOf h count, ?_, fun other hother hfits => ?_⟩
    · rw [hallowed, hsame]
      exact Nat.min_le_left _ _
    · rw [hsame]
      exact Nat.le_min.2 ⟨(hallowed _).1 hfits, hother.lengthOf_le⟩

/-! ## Bounds and lengths -/

/-- What has a length is measured in characters or in members. -/
theorem size_of_hasLength (h : hasLength value = true) :
    Size.of value = .characters (lengthOf value) ∨ Size.of value = .members (lengthOf value) := by
  cases value with
  | str s => exact .inl rfl
  | list items => exact .inr rfl
  | map entries => exact .inr rfl
  | _ => cases h

/-- Where lengths are measured, an inclusive bound cuts what is longer than it. -/
theorem max_of_hasLength (bound : Number) (h : hasLength value = true) : ∃ fault, max bound value =
    if compareLength (lengthOf value) bound = some .gt
    then shortened bound.toLength value fault else .ok value := by
  rcases size_of_hasLength h with hsize | hsize
  · refine ⟨boundFault .max "Must be at most %s characters" bound, ?_⟩
    rw [max, hsize]
    rfl
  · refine ⟨boundFault .max "Must have at most %s elements" bound, ?_⟩
    rw [max, hsize]
    rfl

/-- Where lengths are measured, an exclusive bound cuts what is not shorter than it. -/
theorem less_of_hasLength (bound : Number) (h : hasLength value = true) : ∃ fault, less bound value =
    if compareLength (lengthOf value) bound = some .lt
    then .ok value else shortened (bound.offset (-1)).toLength value fault := by
  rcases size_of_hasLength h with hsize | hsize
  · refine ⟨boundFault .less "Must be shorter than %s characters" bound, ?_⟩
    rw [less, hsize]
    rfl
  · refine ⟨boundFault .less "Must have fewer than %s elements" bound, ?_⟩
    rw [less, hsize]
    rfl

/-! ## Integers as bounds -/

variable {check : Value → Outcome}

/-- The check leaves the first so many characters or members, or all if there are no more.  It has a
fault exactly if it cut something off, and accepts what it left. -/
structure KeepsFirst (count : Nat) (check : Value → Outcome) (value : Value) : Prop where
  isPrefix : PrefixOf (check value).value value
  length : lengthOf (check value).value = Min.min count (lengthOf value)
  isOk_iff : (check value).isOk = true ↔ (check value).value = value
  settles : Settles check value

/-- A check that shortens a value, and its prefixes in the same way, keeps its first members. -/
theorem keepsFirst_of_shortened (h : hasLength value = true)
    (hcheck : ∀ first, PrefixOf first value → ∃ fault, check first = shortened count first fault) :
    KeepsFirst count check value := by
  have hwhole : PrefixOf value value := by
    have hprefix := truncated_prefixOf h (lengthOf value)
    rwa [truncated_of_le (Nat.le_refl _)] at hprefix
  have haccepted : ∀ first, PrefixOf first value → lengthOf first ≤ count →
      check first = .ok first := by
    intro first hfirst hshort
    rcases hcheck first hfirst with ⟨fault, hfault⟩
    rw [hfault, shortened, if_pos hshort]
  by_cases hshort : lengthOf value ≤ count
  · -- The value is its own first `count` members.
    have hsame : check value = .ok value := haccepted value hwhole hshort
    refine ⟨?_, ?_, ?_, ?_⟩
    · rw [hsame]
      exact hwhole
    · rw [hsame]
      exact (Nat.min_eq_right hshort).symm
    · rw [hsame]
      exact iff_of_true rfl rfl
    · rw [Settles, hsame]
      exact hsame
  · -- The cut is a prefix that is short enough, so the check accepts it.
    have hcut := lengthOf_truncated_eq count value
    have hprefix := truncated_prefixOf h count
    rcases hcheck value hwhole with ⟨fault, hfault⟩
    rw [shortened, if_neg hshort] at hfault
    refine ⟨?_, ?_, ?_, ?_⟩
    · rw [hfault]
      exact hprefix
    · rw [hfault]
      exact hcut
    · rw [hfault]
      refine iff_of_false Bool.false_ne_true fun hsame => hshort ?_
      -- A value that was not changed is as long as the cut.
      rw [← hsame]
      exact lengthOf_truncated count value
    · rw [Settles, hfault]
      exact haccepted _ hprefix (lengthOf_truncated count value)

section Integers

variable {i : Int64} (hlength : lengthOf value < 2 ^ 53) (hbound : i.toInt.natAbs < 2 ^ 53)

include hlength hbound

/-- At most so many: what passes is no longer than the bound, and below zero nothing is left. -/
theorem max_integer (h : hasLength value = true) :
    ∃ fault, max (.int i) value = shortened i.toInt.toNat value fault := by
  rcases max_of_hasLength (.int i) h with ⟨fault, hmax⟩
  refine ⟨fault, ?_⟩
  have hcompare := compareLength_int (Nat.le_of_lt hlength) (Nat.le_of_lt hbound)
  simp only [hmax, hcompare, Option.some.injEq, Int.compare_eq_gt]
  split
  · rfl
  · rw [shortened, if_pos (by omega)]

/-- Less than so many: what passes is no longer than the integer before the bound. -/
theorem less_integer (h : hasLength value = true) :
    ∃ fault, less (.int i) value = shortened (i.toInt - 1).toNat value fault := by
  have hone : (-1 : Int64).toInt = -1 := by decide
  rcases Number.exists_offset i (-1) (by omega) (by omega) with ⟨j, hoffset, hj⟩
  have hpred : ((Number.int i).offset (-1)).toLength = (i.toInt - 1).toNat := by
    rw [hoffset, Number.toLength, hj, hone, Int.sub_eq_add_neg]
  rcases less_of_hasLength (.int i) h with ⟨fault, hless⟩
  refine ⟨fault, ?_⟩
  have hcompare := compareLength_int (Nat.le_of_lt hlength) (Nat.le_of_lt hbound)
  simp only [hless, hpred, hcompare, Option.some.injEq, Int.compare_eq_lt]
  split
  · rw [shortened, if_pos (by omega)]
  · rfl

end Integers

/-- Under an integer, the longest prefix that it allows is left: the first `i` characters or members
under an inclusive bound, the first `i - 1` under an exclusive one, and none if this is negative.
There is a fault exactly if something was cut off, and what is left is accepted. -/
theorem keepsFirst_of_integer (i : Int64) {value : Value} (h : hasLength value = true)
    (hlength : lengthOf value < 2 ^ 53) (hbound : i.toInt.natAbs < 2 ^ 53) :
    KeepsFirst i.toInt.toNat (max (.int i)) value ∧
      KeepsFirst (i.toInt - 1).toNat (less (.int i)) value := by
  have hshorter : ∀ first, PrefixOf first value → lengthOf first < 2 ^ 53 :=
    fun first hfirst => Nat.lt_of_le_of_lt hfirst.lengthOf_le hlength
  constructor
  · refine keepsFirst_of_shortened h fun first hfirst => ?_
    exact max_integer (hshorter first hfirst) hbound hfirst.hasLength
  · refine keepsFirst_of_shortened h fun first hfirst => ?_
    exact less_integer (hshorter first hfirst) hbound hfirst.hasLength

/-- Of three entries two are at most two and one is less than two; a NaN among them does not
matter. -/
theorem keepsFirst_of_integer_entries :
    let entries := [("a", Value.float .nan), ("b", .null), ("c", .int 3)]
    hasLength (.map entries) = true ∧ lengthOf (.map entries) < 2 ^ 53 ∧
      (2 : Int64).toInt.natAbs < 2 ^ 53 ∧
      KeepsFirst 2 (max (.int 2)) (.map entries) ∧ KeepsFirst 1 (less (.int 2)) (.map entries) := by
  intro entries
  have hlength : lengthOf (.map entries) < 2 ^ 53 := by decide
  have hbound : (2 : Int64).toInt.natAbs < 2 ^ 53 := by decide
  exact ⟨rfl, hlength, hbound, keepsFirst_of_integer 2 rfl hlength hbound⟩

/-! ## Fractions as bounds -/

section Fractions

variable {units : Nat} (hunits : Representable units) (hfraction : ¬Binary64.unitsPerOne ∣ units)

include hfraction

/-- A length is below a fraction if it is at most its whole part. -/
theorem below_fraction_iff (length : Nat) :
    length * Binary64.unitsPerOne < units ↔ length ≤ units / Binary64.unitsPerOne := by
  rw [Nat.le_div_iff_mul_le Binary64.unitsPerOne_pos]
  refine ⟨Nat.le_of_lt, fun hle => Nat.lt_of_le_of_ne hle fun hsame => hfraction ?_⟩
  exact ⟨length, by rw [Nat.mul_comm, hsame]⟩

/-- A value that is not below a fraction is cut at one less than the whole part of the fraction. -/
theorem less_fraction_value (h : hasLength value = true) :
    (less (.float (.finite false units hunits)) value).value =
      if lengthOf value * Binary64.unitsPerOne < units then value
      else truncated (units / Binary64.unitsPerOne - 1) value := by
  have hone : (-1 : Int64).toInt = -1 := by decide
  have hpred : ((Number.float (.finite false units hunits)).offset (-1)).toLength =
      units / Binary64.unitsPerOne - 1 := by
    rw [Number.offset, Number.toLength, hone, Binary64.toLength_pred hunits hfraction]
  rcases less_of_hasLength (.float (.finite false units hunits)) h with ⟨fault, hless⟩
  rw [hless, hpred]
  simp only [compareLength_fraction _ hunits hfraction]
  split
  · rfl
  · rename_i hlong
    rw [shortened]
    split
    · rename_i hshort
      exact (truncated_of_le hshort).symm
    · rfl

end Fractions

/-- Under an exclusive bound with a fraction, values below the bound are left whole, and all others
are cut to one less than its whole part.  This is the longest prefix below the bound if the bound is
below one or the value was below it; in all other cases one character or member more could have
stayed. -/
theorem less_fraction_longest_iff {units : Nat} (hunits : Representable units)
    (hfraction : ¬Binary64.unitsPerOne ∣ units) {value : Value} (h : hasLength value = true) :
    let left := (less (.float (.finite false units hunits)) value).value
    PrefixOf left value ∧
      (lengthOf left = if lengthOf value * Binary64.unitsPerOne < units then lengthOf value
        else units / Binary64.unitsPerOne - 1) ∧
      (LongestPrefix (fun length => length * Binary64.unitsPerOne < units) left value ↔
        units < Binary64.unitsPerOne ∨ lengthOf value * Binary64.unitsPerOne < units) := by
  intro left
  have hallowed := below_fraction_iff hfraction
  have hsmall : units / Binary64.unitsPerOne = 0 ↔ units < Binary64.unitsPerOne :=
    Nat.div_eq_zero_iff_lt Binary64.unitsPerOne_pos
  have hleft : left = _ := less_fraction_value hunits hfraction h
  rw [hleft]
  split
  · rename_i hbelow
    have hall : truncated (lengthOf value) value = value := truncated_of_le (Nat.le_refl _)
    have hwhole := truncated_prefixOf h (lengthOf value)
    have hlongest := longestPrefix_truncated_iff (lengthOf value) hallowed h
    rw [hall] at hwhole hlongest
    refine ⟨hwhole, rfl, iff_of_true (hlongest.2 ?_) (.inr hbelow)⟩
    rw [Nat.min_eq_left (Nat.le_refl _), Nat.min_eq_right ((hallowed _).1 hbelow)]
  · rename_i hlong
    -- The value is longer than the whole part, so both cuts are made.
    have hover := mt (hallowed _).2 hlong
    have hcut : Min.min (units / Binary64.unitsPerOne - 1) (lengthOf value) =
        units / Binary64.unitsPerOne - 1 := Nat.min_eq_left (by omega)
    refine ⟨truncated_prefixOf h _, (lengthOf_truncated_eq _ value).trans hcut, ?_⟩
    rw [longestPrefix_truncated_iff _ hallowed h, ← hsmall, or_iff_left hlong, hcut,
      Nat.min_eq_left (by omega)]
    omega

/-- Two letters are below two and a half, and stay. -/
theorem less_fraction_longest_letters :
    let units := 5 * (Binary64.unitsPerOne / 2)
    let letters := Value.str "ab"
    ∃ hunits : Representable units, ¬Binary64.unitsPerOne ∣ units ∧ hasLength letters = true ∧
      LongestPrefix (fun length => length * Binary64.unitsPerOne < units)
        (less (.float (.finite false units hunits)) letters).value letters := by
  intro units letters
  have hunits : Representable units := by decide +kernel
  have hfraction : ¬Binary64.unitsPerOne ∣ units := by decide +kernel
  have hbelow : lengthOf letters * Binary64.unitsPerOne < units := by decide +kernel
  rcases less_fraction_longest_iff hunits hfraction (rfl : hasLength letters = true) with ⟨-, -, hlongest⟩
  exact ⟨hunits, hfraction, rfl, hlongest.2 (.inr hbelow)⟩

/-- Of four letters one is left below two and a half, though two would be below it as well. -/
theorem less_fraction_cuts_more :
    let units := 5 * (Binary64.unitsPerOne / 2)
    let letters := Value.str "abcd"
    ∃ hunits : Representable units, ¬Binary64.unitsPerOne ∣ units ∧
      (less (.float (.finite false units hunits)) letters).value = .str "a" ∧
      PrefixOf (.str "ab") letters ∧ lengthOf (.str "ab") * Binary64.unitsPerOne < units ∧
      ¬LongestPrefix (fun length => length * Binary64.unitsPerOne < units)
        (less (.float (.finite false units hunits)) letters).value letters := by
  intro units letters
  have hunits : Representable units := by decide +kernel
  have hfraction : ¬Binary64.unitsPerOne ∣ units := by decide +kernel
  have hlong : ¬lengthOf letters * Binary64.unitsPerOne < units := by decide +kernel
  have hbelow : lengthOf (.str "ab") * Binary64.unitsPerOne < units := by decide +kernel
  have hwhole : units / Binary64.unitsPerOne - 1 = 1 := by decide +kernel
  have hprefix : PrefixOf (.str "ab") letters := .str ⟨['c', 'd'], rfl⟩
  have hvalue : (less (.float (.finite false units hunits)) letters).value = .str "a" := by
    rw [less_fraction_value hunits hfraction rfl, if_neg hlong, hwhole]
    rfl
  refine ⟨hunits, hfraction, hvalue, hprefix, hbelow, fun hlongest => ?_⟩
  have hle := hlongest.longest _ hprefix hbelow
  rw [hvalue] at hle
  exact absurd hle (by decide)

end Assay.Check
