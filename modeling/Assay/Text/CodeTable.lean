import Assay.Text.Character

/-!
# Code tables — sets and maps of code points as rows

Properties of characters are given by standards as long tables.  A `CodeTable` keeps one as rows,
each a run of evenly spaced code points with the images of the first one; the rows of one table do
not overlap.

Small tables are written as rows.  A long one is written as text, one item for each row, the
numbers in hexadecimal:

* `41-5A` is every code point from the first to the last, `100-12E/2` every second one;
* `41-5A>61` sends the row's code points, in order, to those from `61` on;
* `DF>73+73` sends one code point to two.
-/

namespace Assay.Text

/-- A run of code points, evenly spaced, and the images of the first one. -/
structure CodeRow where
  first : Nat
  last : Nat
  step : Nat
  images : List Nat
  deriving DecidableEq

namespace CodeRow

def contains (row : CodeRow) (code : Nat) : Bool :=
  row.first ≤ code && code ≤ row.last && (code - row.first) % row.step == 0

def codes (row : CodeRow) : List Nat :=
  (List.range ((row.last - row.first) / row.step + 1)).map fun i => row.first + i * row.step

/-- The runs of the row, each given by its first and its last code point. -/
def runs (row : CodeRow) : List (Nat × Nat) :=
  if row.step == 1 then [(row.first, row.last)] else row.codes.map fun code => (code, code)

/-- Images keep their distance from the code point along the row. -/
def imagesOf (row : CodeRow) (code : Nat) : List Nat :=
  row.images.map (· + (code - row.first))

end CodeRow

/-- Rows that do not overlap. -/
structure CodeTable where
  rows : List CodeRow

namespace CodeTable

def row? (table : CodeTable) (code : Nat) : Option CodeRow :=
  table.rows.find? (·.contains code)

def contains (table : CodeTable) (code : Nat) : Bool :=
  table.rows.any (·.contains code)

def runs (table : CodeTable) : List (Nat × Nat) :=
  table.rows.flatMap (·.runs)

def images? (table : CodeTable) (code : Nat) : Option (List Nat) :=
  (table.row? code).map (·.imagesOf code)

end CodeTable

/-! ## Tables as text -/

/-- The value of a hexadecimal numeral in uppercase. -/
def hexNumber (numeral : String) : Nat :=
  numeral.foldl
    (fun n c => 16 * n + if c ≤ '9' then c.toNat - '0'.toNat else c.toNat - 'A'.toNat + 10) 0

def CodeRow.ofText (item : String) : CodeRow :=
  let (run, images) := match item.splitOn ">" with
    | [run, images] => (run, (images.splitOn "+").map hexNumber)
    | _ => (item, [])
  let (span, step) := match run.splitOn "/" with
    | [span, step] => (span, hexNumber step)
    | _ => (run, 1)
  match span.splitOn "-" with
  | [first, last] => ⟨hexNumber first, hexNumber last, step, images⟩
  | _ => ⟨hexNumber span, hexNumber span, 1, images⟩

def CodeTable.ofText (text : String) : CodeTable :=
  ⟨(words text).map CodeRow.ofText⟩

end Assay.Text
