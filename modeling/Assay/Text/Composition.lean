import Assay.Text.CompositionTable

/-!
# Composition — letters with marks in one normal form

The composed normal form of a text: composites are taken apart, marks are put in order, and what
belongs together is composed again.  Korean syllables follow a rule instead of a table.
-/

namespace Assay.Text

def combiningTables : List (Nat × CodeTable) :=
  combiningClasses.map fun entry => (entry.1, .ofText entry.2)

def combiningClass (code : Nat) : Nat :=
  ((combiningTables.find? fun entry => entry.2.contains code).map (·.1)).getD 0

def syllableParts (code : Nat) : List Nat :=
  let index := code - 0xAC00
  let final := index % 28
  [0x1100 + index / 588, 0x1161 + index % 588 / 28] ++ if final = 0 then [] else [0x11A7 + final]

/-- Takes a code point apart.  Composites are at most so many parts deep. -/
def decomposed : Nat → Nat → List Nat
  | 0, code => [code]
  | depth + 1, code =>
    if 0xAC00 ≤ code ∧ code ≤ 0xD7A3 then syllableParts code
    else match decompositionTable.images? code with
      | some codes => codes
      | none =>
        match compositionTable.images? code with
        | some [first, mark] => decomposed depth first ++ [mark]
        | _ => [code]

/-- Puts a mark before marks of higher classes; the marks so far are in reverse. -/
def putMark (code : Nat) : List Nat → List Nat
  | [] => [code]
  | last :: before =>
    if combiningClass code ≠ 0 ∧ combiningClass code < combiningClass last then
      last :: putMark code before
    else code :: last :: before

def ordered (codes : List Nat) : List Nat :=
  (codes.foldl (fun before code => putMark code before) []).reverse

def composite? (first second : Nat) : Option Nat :=
  if 0x1100 ≤ first ∧ first < 0x1113 ∧ 0x1161 ≤ second ∧ second < 0x1176 then
    some (0xAC00 + ((first - 0x1100) * 21 + (second - 0x1161)) * 28)
  else if 0xAC00 ≤ first ∧ first ≤ 0xD7A3 ∧ (first - 0xAC00) % 28 = 0 ∧ 0x11A8 ≤ second
      ∧ second < 0x11C3 then
    some (first + (second - 0x11A7))
  else (compositionTable.rows.find? fun row => row.images == [first, second]).map (·.first)

/-- Composes a letter with what follows it.  `kept` are the marks that could not be joined, in
reverse. -/
def composeFrom (starter : Option Nat) (kept : List Nat) : List Nat → List Nat
  | [] => starter.toList ++ kept.reverse
  | code :: rest =>
    let lastClass := (kept.head?.map combiningClass).getD 0
    let blocked := !kept.isEmpty && (lastClass == 0 || lastClass ≥ combiningClass code)
    match starter.bind fun s => if blocked then none else composite? s code with
    | some whole => composeFrom (some whole) kept rest
    | none =>
      if combiningClass code = 0 then
        starter.toList ++ kept.reverse ++ composeFrom (some code) [] rest
      else composeFrom starter (code :: kept) rest

def composed (codes : List Nat) : List Nat :=
  composeFrom none [] (ordered (codes.flatMap (decomposed 4)))

end Assay.Text
