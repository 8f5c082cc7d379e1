import Assay.Checker

/-!
# Meter — runs on a machine that counts

A machine enters one run for every rule that it applies, and leaves it again.  It has a stack of
calls, and depths are words of so many bits.  Here the calls of the interpreter are written for such
a machine: each run is told its depth and compares it with the greatest one, and nothing is said of
why runs should end.  What is not a call, the filters themselves and the way through a container, is
taken from the interpreter.

* `Metered` computations break off where the stack is full or a depth does not fit into a word;
* `Metered.run` applies a rule with a stack of some height, and leaves a record of the depths at
  which runs were entered.
-/

namespace Assay

/-- Why a computation breaks off. -/
inductive Halt where
  /-- The stack of calls is full. -/
  | stack
  /-- The next depth does not fit into a word. -/
  | overflow

/-- The world, and the depths at which runs were entered up to now. -/
structure Meter where
  world : World
  entered : List Nat

/-- A computation that may break off. -/
abbrev Metered := StateT Meter (Except Halt)

namespace Metered

open Checker

/-- How a run is called: at a depth, with a rule and a value. -/
abbrev Call := Nat → Rule → Value → Metered Outcome

/-- What collaborators do is not metered. -/
def ofCheck {α : Type} (check : StateM World α) : Metered α := fun meter =>
  let (answer, world) := check meter.world
  .ok (answer, { meter with world := world })

def enter (depth : Nat) : Metered Unit :=
  modify fun meter => { meter with entered := meter.entered ++ [depth] }

/-- The next depth, if it fits into a word. -/
def deeper (bits depth : Nat) : Metered Nat :=
  if depth + 1 < 2 ^ bits then pure (depth + 1) else throw .overflow

/-! ## Rules -/

variable (checker : Checker) (bits : Nat) (call : Call) (depth : Nat)

def callDeeper (rule : Rule) (value : Value) : Metered Outcome := do
  let next ← deeper bits depth
  call next rule value

/-- How members of containers are called, unless the depth is the greatest. -/
def memberCall : Option (Rule → Value → Metered Outcome) :=
  if checker.settings.maxDepth ≤ depth then none else some (callDeeper bits call depth)

/-- Calls alternatives at the same depth until one has no fault. -/
def firstAccepted (last : Outcome) (alternatives : List Rule) (value : Value) : Metered Outcome :=
  match alternatives with
  | [] => pure last
  | rule :: rest => do
    let outcome ← call depth rule value
    if outcome.isOk then pure outcome else firstAccepted outcome rest value

def apply (whole : Rule) (filter : Filter Rule) (value : Value) : Metered Outcome :=
  match filter with
  | .any alternatives => firstAccepted call depth (.ok value) alternatives value
  | .arrays shape => checkContainer (memberCall checker bits call depth) shape whole value
  | .entity condition => ofCheck (checkEntity condition value)
  | .custom name arguments => ofCheck (checkCustom checker name arguments whole value)
  | plain => pure (checker.applyPlain plain value)

/-- Applies filters in order, as long as the rule goes on. -/
def applyAll (whole : Rule) (filters : List (Filter Rule)) (value : Value) : Metered Outcome :=
  match filters with
  | [] => pure (.ok value)
  | filter :: rest => do
    let outcome ← apply checker bits call depth whole filter value
    if continues whole outcome then applyAll whole rest outcome.value else pure outcome

/-- Applies a rule with a stack that holds so many calls. -/
def run : Nat → Call
  | 0, _, _, _ => throw .stack
  | height + 1, depth, rule, value => do
    enter depth
    let outcome ← applyAll checker bits (run height) depth rule rule.filters value
    pure (withDefault rule.default outcome)

end Metered

end Assay
