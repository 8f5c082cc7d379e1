import Assay.Proofs.Joining
import Assay.Proofs.Number.Amount
import Assay.Proofs.Value.Part
import Assay.Value.Equality
import Mathlib.Data.List.Forall2

/-!
# Equality — what strict and loose equality compare

Loose equality first asks for strict equality.  Only between `values` containers does that decide
anything: all other values that are strictly equal are loosely equal part by part.

* `strictEq_comm` states that strict equality is symmetric;
* `looseEq_lists` and `looseEq_maps` state that containers are compared by their members;
* `looseEq_values_right` and `looseEq_values_left` strip `values` containers off both sides;
* `looseEq_comm_of_not_nested` states that everything else is compared in either order.
-/

namespace Assay.Value

/-! ## Strict equality -/

mutual

/-- Strict equality does not depend on the order of the two values. -/
theorem strictEq_comm (a b : Value) : strictEq a b = strictEq b a := by
  cases a with
  | null => cases b <;> rfl
  | bool s =>
      cases b with
      | bool t => exact Bool.beq_comm
      | _ => rfl
  | int i =>
      cases b with
      | int j => exact Bool.beq_comm
      | _ => rfl
  | float x =>
      cases b with
      | float y => exact Binary64.numEq_comm x y
      | _ => rfl
  | str s =>
      cases b with
      | str t => exact Bool.beq_comm
      | _ => rfl
  | list xs =>
      cases b with
      | list ys => exact strictEqItems_comm xs ys
      | _ => rfl
  | map xs =>
      cases b with
      | map ys => exact strictEqEntries_comm xs ys
      | _ => rfl
  | object o =>
      cases b with
      | object p => exact Bool.beq_comm
      | _ => rfl
  | entity e =>
      cases b with
      | entity f => exact Bool.beq_comm
      | _ => rfl
  | values i x =>
      cases b with
      | values j y => cases i <;> cases j <;> first | rfl | exact Bool.beq_comm
      | _ => rfl
  termination_by structural a

/-- Strict equality of lists is symmetric. -/
theorem strictEqItems_comm (xs ys : List Value) : strictEqItems xs ys = strictEqItems ys xs := by
  cases xs with
  | nil => cases ys <;> rfl
  | cons x xs =>
      cases ys with
      | nil => rfl
      | cons y ys =>
          rw [strictEqItems, strictEqItems, strictEq_comm x y, strictEqItems_comm xs ys]
  termination_by structural xs

theorem strictEqEntries_comm (xs ys : List (String × Value)) :
    strictEqEntries xs ys = strictEqEntries ys xs := by
  cases xs with
  | nil => cases ys <;> rfl
  | cons entry xs =>
      rcases entry with ⟨j, x⟩
      cases ys with
      | nil => rfl
      | cons other ys =>
          rcases other with ⟨k, y⟩
          rw [strictEqEntries, strictEqEntries, strictEq_comm x y, strictEqEntries_comm xs ys,
            Bool.beq_comm]
  termination_by structural xs

end

/-! ## Members -/

/-- Strictly equal values are loosely equal. -/
theorem looseEq_of_strictEq {a b : Value} (h : strictEq a b = true) : looseEq a b = true := by
  unfold looseEq
  rw [h, Bool.true_or]

/-- Lists of one length are loosely equal item by item. -/
theorem looseEqItems_iff {xs ys : List Value} (hlength : xs.length = ys.length) :
    looseEqItems xs ys = true ↔ List.Forall₂ (fun x y => looseEq x y = true) xs ys := by
  induction xs generalizing ys with
  | nil =>
      cases ys with
      | nil =>
          unfold looseEqItems
          simp
      | cons => cases hlength
  | cons x xs ih =>
      cases ys with
      | nil => cases hlength
      | cons y ys =>
          unfold looseEqItems
          rw [Bool.and_eq_true, ih (Nat.succ.inj hlength), List.forall₂_cons]

theorem forall₂_of_strictEqItems {xs ys : List Value} (h : strictEqItems xs ys = true) :
    List.Forall₂ (fun x y => looseEq x y = true) xs ys := by
  induction xs generalizing ys with
  | nil =>
      cases ys with
      | nil => exact .nil
      | cons => cases h
  | cons x xs ih =>
      cases ys with
      | nil => cases h
      | cons y ys =>
          have hboth : strictEq x y = true ∧ strictEqItems xs ys = true := by
            simpa only [strictEqItems, Bool.and_eq_true] using h
          exact .cons (looseEq_of_strictEq hboth.1) (ih hboth.2)

/-- Lists are compared item by item. -/
theorem looseEq_lists {xs ys : List Value} :
    looseEq (list xs) (list ys) = true ↔ List.Forall₂ (fun x y => looseEq x y = true) xs ys := by
  have hlists : looseEq (list xs) (list ys) =
      (strictEqItems xs ys || (xs.length == ys.length && looseEqItems xs ys)) := by
    rw [looseEq.eq_def]
    rfl
  rw [hlists, Bool.or_eq_true, Bool.and_eq_true, beq_iff_eq]
  constructor
  · rintro (hstrict | ⟨hlength, hitems⟩)
    · exact forall₂_of_strictEqItems hstrict
    · exact (looseEqItems_iff hlength).1 hitems
  · intro hitems
    exact .inr ⟨hitems.length_eq, (looseEqItems_iff hitems.length_eq).2 hitems⟩

/-- Every entry has a partner of the same key that is loosely equal. -/
def EntriesMatch (xs ys : List (String × Value)) : Prop :=
  ∀ key x, (key, x) ∈ xs → ∃ y, ys.lookup key = some y ∧ looseEq x y = true

/-- Maps are loosely equal if their entries match. -/
theorem looseEqEntries_iff (xs ys : List (String × Value)) :
    looseEqEntries xs ys = true ↔ EntriesMatch xs ys := by
  induction xs with
  | nil =>
      unfold looseEqEntries
      simp [EntriesMatch]
  | cons entry xs ih =>
      rcases entry with ⟨key, x⟩
      have hcons : looseEqEntries ((key, x) :: xs) ys =
          ((ys.lookup key).any (looseEq x) && looseEqEntries xs ys) := by
        rw [looseEqEntries.eq_def]
        dsimp only
        split <;> simp [*]
      rw [hcons, Bool.and_eq_true, Option.any_eq_true, ih]
      constructor
      · rintro ⟨hkey, hrest⟩ other z hmem
        rcases List.mem_cons.1 hmem with hsame | hmem
        · cases hsame
          exact hkey
        · exact hrest other z hmem
      · intro hall
        exact ⟨hall key x List.mem_cons_self,
          fun other z hmem => hall other z (List.mem_cons_of_mem _ hmem)⟩

/-- Entries that are strictly equal have the same keys in the same order, so that each is found
under its key. -/
theorem entriesMatch_of_strictEqEntries {xs ys : List (String × Value)}
    (distinct : (Entries.keys xs).Nodup) (h : strictEqEntries xs ys = true) :
    xs.length = ys.length ∧ EntriesMatch xs ys := by
  induction xs generalizing ys with
  | nil =>
      cases ys with
      | nil => exact ⟨rfl, fun _ _ hmem => nomatch hmem⟩
      | cons => cases h
  | cons entry xs ih =>
      rcases entry with ⟨key, x⟩
      rcases ys with _ | ⟨⟨other, y⟩, ys⟩
      · cases h
      · have hboth : (key = other ∧ strictEq x y = true) ∧ strictEqEntries xs ys = true := by
          simpa only [strictEqEntries, Bool.and_eq_true, beq_iff_eq] using h
        rcases hboth with ⟨⟨rfl, hfirst⟩, hrest⟩
        rcases List.nodup_cons.1 distinct with ⟨hnew, hdistinct⟩
        rcases ih hdistinct hrest with ⟨hlength, hmatch⟩
        refine ⟨congrArg (· + 1) hlength, fun name z hmem => ?_⟩
        rcases List.mem_cons.1 hmem with hsame | hmem
        · cases hsame
          exact ⟨y, by simp, looseEq_of_strictEq hfirst⟩
        · have hname : name ≠ key := fun hsame =>
            hnew (List.mem_map.2 ⟨_, hmem, hsame⟩)
          rcases hmatch name z hmem with ⟨found, hfound, hequal⟩
          exact ⟨found, by rw [Entries.lookup_cons_ite, if_neg hname, hfound], hequal⟩

/-- Maps are compared key by key. -/
theorem looseEq_maps {xs ys : List (String × Value)} (distinct : (Entries.keys xs).Nodup) :
    looseEq (map xs) (map ys) = true ↔ xs.length = ys.length ∧ EntriesMatch xs ys := by
  have hmaps : looseEq (map xs) (map ys) =
      (strictEqEntries xs ys || (xs.length == ys.length && looseEqEntries xs ys)) := by
    rw [looseEq.eq_def]
    rfl
  rw [hmaps, Bool.or_eq_true, Bool.and_eq_true, beq_iff_eq, looseEqEntries_iff]
  constructor
  · rintro (hstrict | hmatch)
    · exact entriesMatch_of_strictEqEntries distinct hstrict
    · exact hmatch
  · exact .inr

/-! ## Containers around a value -/

/-- What lies inside all `values` containers. -/
def core : Value → Value
  | values _ raw => raw.core
  | other => other

/-- The identities of the `values` containers around the core, from the outside inwards. -/
def wrappings : Value → List (Option Nat)
  | values identity raw => identity :: raw.wrappings
  | _ => []

def isWrapped : Value → Bool
  | values .. => true
  | _ => false

theorem core_of_not_isWrapped {value : Value} (h : value.isWrapped = false) :
    value.core = value := by
  cases value with
  | values => cases h
  | _ => rfl

theorem wrappings_of_not_isWrapped {value : Value} (h : value.isWrapped = false) :
    value.wrappings = [] := by
  cases value with
  | values => cases h
  | _ => rfl

/-- Induction over the `values` containers around a core. -/
theorem wrapped_induction {motive : Value → Prop}
    (wrapped : ∀ identity raw, motive raw → motive (values identity raw))
    (single : ∀ value, value.isWrapped = false → motive value) (value : Value) : motive value := by
  induction value using core.induct with
  | case1 identity raw ih => exact wrapped identity raw ih
  | case2 other hother =>
      cases other with
      | values identity raw => exact absurd rfl (hother identity raw)
      | _ => exact single _ rfl

/-- The core is what no wrapping is left around. -/
theorem isWrapped_core (value : Value) : value.core.isWrapped = false := by
  induction value using wrapped_induction with
  | wrapped _ _ ih => exact ih
  | single value h => rwa [core_of_not_isWrapped h]

theorem partOf_core (value : Value) : PartOf value.core value := by
  induction value using wrapped_induction with
  | wrapped _ _ ih => exact .contents ih
  | single value h =>
      rw [core_of_not_isWrapped h]
      exact .self

/-- On the left, containers are stripped off until there is no more. -/
theorem looseEq_values_left {b : Value} (h : b.isWrapped = false) (a : Value) :
    looseEq a b = looseEq a.core b := by
  induction a using wrapped_induction with
  | wrapped identity raw ih =>
      have hstrict : strictEq (values identity raw) b = false := by
        cases b with
        | values => cases h
        | _ => rfl
      have hstrip : looseEq (values identity raw) b = looseEq raw b := by
        rw [looseEq.eq_def, hstrict, Bool.false_or]
      exact hstrip.trans ih
  | single a ha => rw [core_of_not_isWrapped ha]

/-- On the right, the outermost container is first looked for among those on the left.  If it is not
there, the two cores are compared the other way round. -/
theorem looseEq_values_right (a : Value) (identity : Option Nat) (raw : Value) :
    looseEq a (values identity raw) =
      (identity.isSome && a.wrappings.contains identity || looseEq raw.core a.core) := by
  induction a using wrapped_induction with
  | wrapped outer inner ih =>
      have hstrip : looseEq (values outer inner) (values identity raw) =
          (strictEq (values outer inner) (values identity raw)
            || looseEq inner (values identity raw)) := by
        rw [looseEq.eq_def]
      -- The outermost container is compared by its identity before it is stripped off.
      have hcontains : (identity.isSome && (outer :: inner.wrappings).contains identity) =
          (outer.isSome && outer == identity
            || identity.isSome && inner.wrappings.contains identity) := by
        rw [List.contains_cons, Bool.and_or_distrib_left]
        congr 1
        cases identity <;> cases outer <;> simp [Bool.beq_comm]
      rw [hstrip, ih, ← Bool.or_assoc]
      change _ = (identity.isSome && (outer :: inner.wrappings).contains identity || _)
      rw [hcontains]
      rfl
  | single a h =>
      have hturn : looseEq a (values identity raw) = looseEq raw a := by
        cases a with
        | values => cases h
        | _ =>
            rw [looseEq.eq_def]
            rfl
      rw [hturn, wrappings_of_not_isWrapped h, core_of_not_isWrapped h, looseEq_values_left h]
      simp

/-! ## All other pairs -/

theorem looseEq_floats (x y : Binary64) : looseEq (float x) (float y) = x.numEq y := by
  rw [looseEq.eq_def]
  exact Bool.or_self _

/-- Texts compare as numbers in either order. -/
theorem numeralsEq_comm (s t : String) : numeralsEq s t = numeralsEq t s := by
  unfold numeralsEq
  cases Number.parse? s with
  | none => cases Number.parse? t <;> rfl
  | some m =>
      cases Number.parse? t with
      | none => rfl
      | some n => exact Number.numEq_comm m n

/-- Compared through what they hold: two lists, two maps or two `values` containers. -/
def bothNested : Value → Value → Bool
  | list _, list _ | map _, map _ | values .., values .. => true
  | _, _ => false

/-- Unless both sides are compared through what they hold, their order does not matter. -/
theorem looseEq_comm_of_not_nested {a b : Value} (h : bothNested a b = false) :
    looseEq a b = looseEq b a := by
  rw [looseEq.eq_def a b, looseEq.eq_def b a, strictEq_comm a b]
  refine congrArg (strictEq b a || ·) ?_
  -- A truth value meets a truth value, or numbers and texts meet each other; all other pairs are
  -- listed in both orders.
  cases a with
  | bool s =>
      cases b with
      | bool t => exact Bool.beq_comm
      | _ => rfl
  | int i =>
      cases b with
      | int j => exact Number.numEq_comm _ _
      | float y => exact Number.numEq_comm _ _
      | _ => rfl
  | float x =>
      cases b with
      | int j => exact Number.numEq_comm _ _
      | float y => exact Number.numEq_comm _ _
      | _ => rfl
  | str s =>
      cases b with
      | str t => exact numeralsEq_comm s t
      | _ => rfl
  | list xs =>
      cases b with
      | list ys => cases h
      | _ => rfl
  | map xs =>
      cases b with
      | map ys => cases h
      | _ => rfl
  | values i x =>
      cases b with
      | values j y => cases h
      | _ => rfl
  | _ => cases b <;> rfl

end Assay.Value
