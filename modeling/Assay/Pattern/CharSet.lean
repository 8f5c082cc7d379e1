import Assay.Pattern.Ranges
import Assay.Text.Character
import Assay.Text.Case
import Assay.Text.Property
import Assay.Text.Script
import Assay.Text.Word

/-!
# Character sets — what one place of a pattern admits

A set is a tree of ranges, tables and set operations, and is asked for one code point at a time.
Case is ignored by asking for all case variants of the code point.

* `CharSet.contains` is membership;
* `CharSet.ranges` is the set written as its longest runs.
-/

namespace Assay

inductive CharSet where
  | none
  | range (first last : Nat)
  | table (table : Text.CodeTable)
  | blank
  | digit
  | word
  | union (a b : CharSet)
  | inter (a b : CharSet)
  | diff (a b : CharSet)
  | complement (a : CharSet)
  /-- All case variants of the members. -/
  | folded (a : CharSet)
  /-- The variants of the members by ASCII case. -/
  | asciiFolded (a : CharSet)

namespace CharSet

/-- The other case of an ASCII letter. -/
def asciiVariants (code : Nat) : List Nat :=
  if (0x41 ≤ code ∧ code ≤ 0x5A) then [code, code + 32]
  else if (0x61 ≤ code ∧ code ≤ 0x7A) then [code, code - 32]
  else [code]

def contains : CharSet → Nat → Bool
  | none, _ => false
  | range first last, code => first ≤ code && code ≤ last
  | table t, code => t.contains code
  | blank, code => Text.isBlank (Char.ofNat code)
  | digit, code => Text.isDecimalDigit (Char.ofNat code)
  | word, code => Text.isWordChar (Char.ofNat code)
  | union a b, code => a.contains code || b.contains code
  | inter a b, code => a.contains code && b.contains code
  | diff a b, code => a.contains code && !b.contains code
  | complement a, code => !a.contains code
  | folded a, code => (Text.caseVariants code).any a.contains
  | asciiFolded a, code => (asciiVariants code).any a.contains

/-- The runs of a set, with every letter that is equal to a member when case is ignored. -/
def foldedRanges (ranges : Ranges) : Ranges :=
  .normal (ranges ++ Text.foldTable.rows.flatMap fun row =>
    (row.codes.filter fun code => (row.imagesOf code).any ranges.contains).map fun code =>
      (code, code))

/-- The runs of a set, with the other case of its ASCII letters. -/
def asciiFoldedRanges (ranges : Ranges) : Ranges :=
  .normal (ranges ++ ranges.moved 0x41 0x5A 32 0 ++ ranges.moved 0x61 0x7A 0 32)

def blankRanges : Ranges :=
  [(9, 0xD), (0x20, 0x20), (0x85, 0x85), (0xA0, 0xA0), (0x1680, 0x1680), (0x2000, 0x200A),
    (0x2028, 0x2029), (0x202F, 0x202F), (0x205F, 0x205F), (0x3000, 0x3000)]

def digitRanges : Ranges := .normal Text.Category.digitTable.runs

def wordRanges : Ranges := .normal (Text.wordTables.flatMap (·.runs))

def ranges : CharSet → Ranges
  | none => []
  | range first last => if first ≤ last then [(first, last)] else []
  | table t => .normal t.runs
  | blank => blankRanges
  | digit => digitRanges
  | word => wordRanges
  | union a b => a.ranges.union b.ranges
  | inter a b => a.ranges.inter b.ranges
  | diff a b => a.ranges.diff b.ranges
  | complement a => a.ranges.complement
  | folded a => foldedRanges a.ranges
  | asciiFolded a => asciiFoldedRanges a.ranges

def single (c : Char) : CharSet := range c.toNat c.toNat

def unions (sets : List CharSet) : CharSet := sets.foldl union none

/-- Members of either set but not of both. -/
def symmDiff (a b : CharSet) : CharSet := union (diff a b) (diff b a)

def ofRanges (ranges : List (Nat × Nat)) : CharSet :=
  unions (ranges.map fun r => range r.1 r.2)

/-- Ranges of code points between brackets, joined from the last one on. -/
def bracket (ranges : List (Nat × Nat)) : CharSet :=
  ranges.foldr (fun r set => union (range r.1 r.2) set) none

/-- Characters between brackets. -/
def anyOf (chars : List Char) : CharSet := bracket (chars.map fun c => (c.toNat, c.toNat))

end CharSet

end Assay
