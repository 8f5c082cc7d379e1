/-!
# Regular patterns — matching by sets of positions

A pattern is built from symbols, assertions, sequence, alternative and repetition.  It is read as a
step from the positions where a match may begin to those where it may end.  A set of positions is
the natural number with those bits, so that one symbol is a conjunction and a shift.

* `Regular.map` turns symbols and assertions into the positions where they hold;
* `Regular.reach` computes the step.
-/

namespace Assay

/-- A pattern over symbols `σ` and assertions `τ`. -/
inductive Regular (σ τ : Type) where
  | empty
  | symbol (s : σ)
  | assertion (t : τ)
  | seq (first second : Regular σ τ)
  | alt (first second : Regular σ τ)
  /-- At least `least` times, and at most `most` times if there is such a bound. -/
  | rep (body : Regular σ τ) (least : Nat) (most : Option Nat)
  /-- A group whose match is kept apart; it matches what its body matches. -/
  | group (body : Regular σ τ)

namespace Regular

variable {σ τ σ' τ' : Type}

def map (f : σ → σ') (g : τ → τ') : Regular σ τ → Regular σ' τ'
  | empty => empty
  | symbol s => symbol (f s)
  | assertion t => assertion (g t)
  | seq a b => seq (a.map f g) (b.map f g)
  | alt a b => alt (a.map f g) (b.map f g)
  | rep a least most => rep (a.map f g) least most
  | group a => group (a.map f g)

def seqs : List (Regular σ τ) → Regular σ τ
  | [] => empty
  | [a] => a
  | a :: rest => seq a (seqs rest)

/-- One after the other, with nothing after the last. -/
def inRow (items : List (Regular σ τ)) : Regular σ τ := items.foldr seq empty

def star (body : Regular σ τ) : Regular σ τ := rep body 0 none

def optional (body : Regular σ τ) : Regular σ τ := rep body 0 (some 1)

/-- Takes a step over and over, so many times at most, and keeps every position on the way. -/
def closure (step : Nat → Nat) : Nat → Nat → Nat
  | 0, positions => positions
  | rounds + 1, positions =>
    let next := positions ||| step positions
    if next = positions then positions else closure step rounds next

/-- Takes a step exactly so many times; from nowhere it leads nowhere. -/
def iterate (step : Nat → Nat) : Nat → Nat → Nat
  | 0, positions => positions
  | rounds + 1, positions => if positions = 0 then 0 else iterate step rounds (step positions)

/-- Where matches end that begin in a set of positions.  Symbols and assertions are the sets of
positions where they hold, and `length` is the length of the text. -/
def reach (length : Nat) : Regular Nat Nat → Nat → Nat
  | empty, positions => positions
  | symbol holds, positions => (positions &&& holds) <<< 1
  | assertion holds, positions => positions &&& holds
  | seq a b, positions => b.reach length (a.reach length positions)
  | alt a b, positions => a.reach length positions ||| b.reach length positions
  | rep a least most, positions =>
    closure (a.reach length) (most.elim (length + 1) (· - least))
      (iterate (a.reach length) least positions)
  | group a, positions => a.reach length positions

/-- The positions, counted from zero, of the items of a list that pass a test. -/
def positionsOf {α : Type} (test : α → Bool) (items : List α) : Nat :=
  items.foldr (fun item later => 2 * later + if test item then 1 else 0) 0

/-- All positions of a text of a length, its end included. -/
def allPositions (length : Nat) : Nat := 1 <<< (length + 1) - 1

end Regular

end Assay
