import Assay.Binary64

/-!
# Shortest decimals — the fewest digits that read back as the same number

The reals that round to a given finite number form an interval around it.  Among the decimals in
it, one with the fewest digits is written, and of those the nearest.

* `readsBack` says that a decimal lies in the interval of a number;
* `onGrid?` looks at the number's two neighbours among the multiples of a power of ten;
* `shortest` takes the coarsest grid that has an answer;
* `DecimalStyle` says how digits become text.
-/

namespace Assay

structure Decimal where
  digits : Nat
  exponent : Int
  deriving DecidableEq

def decimalLength (n : Nat) : Nat := (Nat.toDigits 10 n).length

namespace Binary64

/-- Twice the distance to the next number up, in quarter units: half a step each way. -/
def upperBound (n : Nat) : Nat := 4 * n + 2 * 2 ^ droppedBits n

/-- The lower end of the interval in quarter units.  Below a power of two the steps are half as
long, unless they are the smallest. -/
def lowerBound (n : Nat) : Nat :=
  if n = 2 ^ 52 * 2 ^ droppedBits n ∧ 0 < droppedBits n then 4 * n - 2 ^ droppedBits n
  else 4 * n - 2 * 2 ^ droppedBits n

/-- The decimal rounds to `n` units: it lies between the bounds, and the bounds themselves count
when the significand of `n` is even. -/
def readsBack (n : Nat) (decimal : Decimal) : Bool :=
  let up := decimal.digits * 10 ^ decimal.exponent.toNat * unitsPerOne * 4
  let down := 10 ^ (-decimal.exponent).toNat
  let low := lowerBound n * down
  let high := upperBound n * down
  if n / 2 ^ droppedBits n % 2 = 0 then low ≤ up && up ≤ high else low < up && up < high

/-- Which of two equally near decimals is written. -/
inductive DecimalTie where
  | up
  | even
  deriving DecidableEq

/-- The multiple of `10 ^ place` that reads back as `n` units, the nearer one if two do. -/
def onGrid? (tie : DecimalTie) (n : Nat) (place : Int) : Option Decimal :=
  let top := n * 10 ^ (-place).toNat
  let bottom := unitsPerOne * 10 ^ place.toNat
  let below : Decimal := ⟨top / bottom, place⟩
  let above : Decimal := ⟨top / bottom + 1, place⟩
  match readsBack n below, readsBack n above with
  | true, true =>
    let twice := 2 * (top % bottom)
    if twice < bottom then some below
    else if bottom < twice then some above
    else match tie with
      | .up => some above
      | .even => some (if below.digits % 2 = 0 then below else above)
  | true, false => some below
  | false, true => some above
  | false, false => none

def leadingPlace (n : Nat) : Int :=
  (decimalLength (n * 10 ^ 340 / unitsPerOne) : Int) - 341

/-- Drops final zeros, at most as many as there is fuel for. -/
def Decimal.dropZeros : Nat → Decimal → Decimal
  | 0, d => d
  | fuel + 1, d =>
    if d.digits ≠ 0 ∧ d.digits % 10 = 0 then
      Decimal.dropZeros fuel ⟨d.digits / 10, d.exponent + 1⟩
    else d

/-- The shortest decimal that reads back as `n` units; seventeen digits are always enough. -/
def shortest (tie : DecimalTie) (n : Nat) : Decimal :=
  if n = 0 then ⟨0, 0⟩
  else
    let place := leadingPlace n
    let found := (List.range 18).findSome? fun (k : Nat) => onGrid? tie n (place - k)
    Decimal.dropZeros 20 (found.getD ⟨n, 0⟩)

end Binary64

structure DecimalStyle where
  /-- Which of two equally near decimals is written. -/
  tie : Binary64.DecimalTie
  /-- The leading places that are written without an exponent. -/
  positional : Int → Bool
  /-- What follows a whole number. -/
  wholeMark : String

namespace DecimalStyle

def positionalText (style : DecimalStyle) (d : Decimal) : String :=
  let digits := Nat.toDigits 10 d.digits
  if 0 ≤ d.exponent then
    String.ofList (digits ++ List.replicate d.exponent.toNat '0') ++ style.wholeMark
  else
    let places := (-d.exponent).toNat
    let padded := List.replicate (places + 1 - digits.length) '0' ++ digits
    let whole := padded.length - places
    String.ofList (padded.take whole) ++ "." ++ String.ofList (padded.drop whole)

/-- One digit before the point, and the exponent with its sign. -/
def exponentText (d : Decimal) : String :=
  let digits := Nat.toDigits 10 d.digits
  let exponent := d.exponent + digits.length - 1
  let significand := match digits with
    | [] => ""
    | [c] => String.singleton c
    | c :: rest => String.singleton c ++ "." ++ String.ofList rest
  significand ++ "e" ++ (if exponent < 0 then "-" else "+") ++ toString exponent.natAbs

def magnitudeText (style : DecimalStyle) (units : Nat) : String :=
  let d := Binary64.shortest style.tie units
  if style.positional (d.exponent + decimalLength d.digits - 1) then style.positionalText d
  else exponentText d

end DecimalStyle

namespace Binary64

/-- The text of a number, with the given words for the numbers that have no digits. -/
def textWith (style : DecimalStyle) (nanText infinityText : String) : Binary64 → String
  | nan => nanText
  | infinity negative => (if negative then "-" else "") ++ infinityText
  | finite negative n _ => (if negative then "-" else "") ++ style.magnitudeText n

/-- Shown numbers have no exponent and no empty fraction. -/
def shownStyle : DecimalStyle := ⟨.up, fun _ => true, ""⟩

def shown (x : Binary64) : String := x.textWith shownStyle "NaN" "inf"

end Binary64

end Assay
