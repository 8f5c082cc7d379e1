import Assay.Value

/-!
# Identity — telling containers apart

A check may make `values` containers.  Whoever keeps its value gives them identities first, so that
they differ from all others and stay equal to themselves.
-/

namespace Assay.Value

mutual

/-- Gives identities, from a given number on, to the containers that have none.  The number of the
next one is returned as well. -/
def identify (next : Nat) : Value → Value × Nat
  | list items =>
    let (items, next) := identifyItems next items
    (list items, next)
  | map entries =>
    let (entries, next) := identifyEntries next entries
    (map entries, next)
  | values none raw =>
    let (raw, next) := identify next raw
    (values (some next) raw, next + 1)
  | values (some identity) raw =>
    let (raw, next) := identify next raw
    (values (some identity) raw, next)
  | null => (null, next)
  | bool b => (bool b, next)
  | int i => (int i, next)
  | float x => (float x, next)
  | str s => (str s, next)
  | object o => (object o, next)
  | entity e => (entity e, next)
  termination_by structural value => value

def identifyItems (next : Nat) : List Value → List Value × Nat
  | [] => ([], next)
  | item :: rest =>
    let (item, next) := identify next item
    let (rest, next) := identifyItems next rest
    (item :: rest, next)
  termination_by structural items => items

def identifyEntries (next : Nat) : List (String × Value) → List (String × Value) × Nat
  | [] => ([], next)
  | (key, value) :: rest =>
    let (value, next) := identify next value
    let (rest, next) := identifyEntries next rest
    ((key, value) :: rest, next)
  termination_by structural entries => entries

end

end Assay.Value
