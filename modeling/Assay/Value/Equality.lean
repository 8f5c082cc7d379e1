import Assay.Value

/-!
# Equality — strict and loose

Strict equality asks for the same kind and the same content; lists and maps are compared in order,
and objects, entities and `values` containers by identity.

Loose equality adds to it:

* numbers and numerals are equal when their values are;
* a truth value equals everything that is as true as it is;
* null equals everything blank;
* maps may differ in the order of their keys;
* a `values` container is compared through what it holds.
-/

namespace Assay.Value

mutual

/-- Same kind, same content, same identity.  As numbers go, NaN equals nothing. -/
def strictEq : Value → Value → Bool
  | null, null => true
  | bool a, bool b => a == b
  | int i, int j => i == j
  | float x, float y => x.numEq y
  | str s, str t => s == t
  | list xs, list ys => strictEqItems xs ys
  | map xs, map ys => strictEqEntries xs ys
  | object o, object p => o.serial == p.serial
  | entity e, entity f => e.origin == f.origin
  | values i _, values j _ => i.isSome && i == j
  | _, _ => false
  termination_by structural a => a

def strictEqItems : List Value → List Value → Bool
  | [], [] => true
  | x :: xs, y :: ys => x.strictEq y && strictEqItems xs ys
  | _, _ => false
  termination_by structural xs => xs

def strictEqEntries : List (String × Value) → List (String × Value) → Bool
  | [], [] => true
  | (j, x) :: xs, (k, y) :: ys => j == k && x.strictEq y && strictEqEntries xs ys
  | _, _ => false
  termination_by structural xs => xs

end

/-- Equal to null when equality is loose. -/
def isBlank : Value → Bool
  | null => true
  | bool b => !b
  | int i => i == 0
  | float x => !x.isNonzero
  | str s => s == ""
  | list items => items.isEmpty
  | map entries => entries.isEmpty
  | object _ | entity _ | values .. => false

/-- A number and a text: as numbers if the text is a numeral, else by the number's text. -/
def numberEqText (n : Number) (text : String) : Bool :=
  match Number.parse? text with
  | some m => n.numEq m
  | none => n.text == text

/-- Two texts that are both numerals of equal value. -/
def numeralsEq (s t : String) : Bool :=
  match Number.parse? s, Number.parse? t with
  | some m, some n => m.numEq n
  | _, _ => false

mutual

/-- Strictly equal, or equal once kinds are brought together. -/
def looseEq (a b : Value) : Bool :=
  strictEq a b ||
    match a, b with
    | values _ raw, other => looseEq raw other
    | other, values _ raw => looseEq raw other
    | null, other => other.isBlank
    | other, null => other.isBlank
    | bool t, other => t == other.truthy
    | other, bool t => t == other.truthy
    | str s, str t => numeralsEq s t
    | str s, int i => numberEqText (.int i) s
    | str s, float x => numberEqText (.float x) s
    | int i, str s => numberEqText (.int i) s
    | float x, str s => numberEqText (.float x) s
    | int i, int j => Number.numEq (.int i) (.int j)
    | int i, float y => Number.numEq (.int i) (.float y)
    | float x, int j => Number.numEq (.float x) (.int j)
    | float x, float y => Number.numEq (.float x) (.float y)
    | list xs, list ys => xs.length == ys.length && looseEqItems xs ys
    | map xs, map ys => xs.length == ys.length && looseEqEntries xs ys
    | _, _ => false
  termination_by sizeOf a + sizeOf b

def looseEqItems : List Value → List Value → Bool
  | x :: xs, y :: ys => looseEq x y && looseEqItems xs ys
  | _, _ => true
  termination_by xs ys => sizeOf xs + sizeOf ys

/-- Each entry equals the one of the same key. -/
def looseEqEntries (xs ys : List (String × Value)) : Bool :=
  match xs with
  | [] => true
  | (key, x) :: rest =>
    (match _h : ys.lookup key with
      | some y => looseEq x y
      | none => false) && looseEqEntries rest ys
  termination_by sizeOf xs + sizeOf ys
  decreasing_by
    · have := Entries.sizeOf_lookup_lt _h
      simp only [List.cons.sizeOf_spec, Prod.mk.sizeOf_spec]
      omega
    · simp only [List.cons.sizeOf_spec]
      omega

end

/-- A loosely equal value is in the list. -/
def looseContains (items : List Value) (value : Value) : Bool :=
  items.any (looseEq value)

end Assay.Value
