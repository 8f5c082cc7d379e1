import Assay.Pattern.Ranges

/-!
# Byte runs — ranges of characters as bytes

Expressions are matched on the bytes of a text.  A range of code points falls into finitely many
products of byte ranges, one range for each byte of the characters, and the products of a set make
a tree by their first bytes.
-/

namespace Assay.Regex

/-- The bytes from a first to a last one. -/
abbrev ByteRange := Nat × Nat

/-- One range for each byte of some characters. -/
abbrev ByteRun := List ByteRange

/-- What is added to the digits of a character after the first one. -/
def tailByte : Nat := 0x80

def anyTail : ByteRange := (tailByte, tailByte + 63)

/-- The runs of the numbers from `low` to `high`.  A number is written in digits to the base 64,
one for each byte and `more` after the first one, and `lead` is added to the first digit.  The
numbers whose first digit comes with all others after it make one run. -/
def numberRuns (lead : Nat) : Nat → Nat → Nat → List ByteRun
  | 0, low, high => [[(lead + low, lead + high)]]
  | more + 1, low, high =>
    let unit := 1 <<< (6 * (more + 1))
    let within (digit low high : Nat) : List ByteRun :=
      (numberRuns tailByte more low high).map ((lead + digit, lead + digit) :: ·)
    if low / unit = high / unit then within (low / unit) (low % unit) (high % unit)
    else
      let (first, before) := if low % unit = 0 then (low / unit, []) else
        (low / unit + 1, within (low / unit) (low % unit) (unit - 1))
      let (stop, after) := if (high + 1) % unit = 0 then (high / unit + 1, []) else
        (high / unit, within (high / unit) 0 (high % unit))
      let whole := if first < stop then
        [(lead + first, lead + stop - 1) :: List.replicate (more + 1) anyTail] else []
      before ++ whole ++ after

/-- The code points that take the same number of bytes: the first and the last one, what is added
to the first digit, and the number of bytes after the first one.  Surrogates have no bytes. -/
def byteZones : List (Nat × Nat × Nat × Nat) :=
  [(0, 0x7F, 0, 0), (0x80, 0x7FF, 0xC0, 1), (0x800, 0xD7FF, 0xE0, 2), (0xE000, 0xFFFF, 0xE0, 2),
    (0x10000, 0x10FFFF, 0xF0, 3)]

/-- The byte runs of the characters of a range. -/
def byteRuns (range : Nat × Nat) : List ByteRun :=
  byteZones.flatMap fun (first, last, lead, more) =>
    let low := max first range.1
    let high := min last range.2
    if low ≤ high then numberRuns lead more low high else []

/-- The bytes of a character, each as a range. -/
def bytesOf (code : Nat) : ByteRun :=
  ((byteRuns (code, code)).head?).getD []

/-- Adds what follows a byte range to the group of that range. -/
def addToGroup (first : ByteRange) (rest : ByteRun) :
    List (ByteRange × List ByteRun) → List (ByteRange × List ByteRun)
  | [] => [(first, [rest])]
  | (range, rests) :: groups =>
    if range = first then (range, rest :: rests) :: groups
    else (range, rests) :: addToGroup first rest groups

/-- The runs that are not at their end, grouped by their first ranges. -/
def groupByFirst : List ByteRun → List (ByteRange × List ByteRun)
  | [] => []
  | [] :: runs => groupByFirst runs
  | (first :: rest) :: runs => addToGroup first rest (groupByFirst runs)

end Assay.Regex
