/-!
# Ranges — sets of code points as runs in order

A set of code points is written as its longest runs, from the lowest to the highest, so that equal
sets have equal runs.

* `Ranges.normal` brings any runs into this form;
* `Ranges.union`, `inter`, `diff` and `complement` work on sets in this form.
-/

namespace Assay

/-- Runs of code points, each given by its first and its last one. -/
abbrev Ranges := List (Nat × Nat)

namespace Ranges

def lastCode : Nat := 0x10FFFF

def contains (ranges : Ranges) (code : Nat) : Bool :=
  ranges.any fun run => run.1 ≤ code && code ≤ run.2

/-- Joins runs that touch or overlap, once they are in order. -/
def joinFrom (first last : Nat) : Ranges → Ranges
  | [] => [(first, last)]
  | run :: rest =>
    if run.1 ≤ last + 1 then joinFrom first (max last run.2) rest
    else (first, last) :: joinFrom run.1 run.2 rest

def join : Ranges → Ranges
  | [] => []
  | run :: rest => joinFrom run.1 run.2 rest

/-- The longest runs of a set that is given by any runs. -/
def normal (runs : List (Nat × Nat)) : Ranges :=
  join (runs.mergeSort fun a b => a.1 ≤ b.1)

/-- What lies between the runs, from a code point on. -/
def gapsFrom (start : Nat) : Ranges → Ranges
  | [] => if start ≤ lastCode then [(start, lastCode)] else []
  | run :: rest =>
    (if start < run.1 then [(start, run.1 - 1)] else []) ++ gapsFrom (run.2 + 1) rest

def complement (ranges : Ranges) : Ranges := gapsFrom 0 ranges

def union (a b : Ranges) : Ranges := normal (a ++ b)

def diff (a b : Ranges) : Ranges := complement (union (complement a) b)

def inter (a b : Ranges) : Ranges := diff a (complement b)

/-- The members between two code points, moved up and down. -/
def moved (ranges : Ranges) (low high up down : Nat) : Ranges :=
  ranges.filterMap fun run =>
    let first := max low run.1
    let last := min high run.2
    if first ≤ last then some (first + up - down, last + up - down) else none

end Ranges

end Assay
