import Assay.Binary64
import Assay.Text.Character

/-!
# Numerals — the written form of a number

A numeral is an optional sign, digits with an optional fraction part, and an optional exponent.
Either the whole part or the fraction has a digit.

* `Numeral.scan` takes the longest numeral off the front of a text;
* `Numeral.toInt?` is the value of a numeral that is only a sign and digits;
* `Numeral.toBinary64` is the nearest binary64 number.
-/

namespace Assay

structure Numeral where
  negative : Bool
  whole : List Char
  /-- The digits after the point, if there is a point. -/
  fraction : Option (List Char)
  /-- The sign and the digits of the exponent. -/
  exponent : Option (Bool × List Char)
  deriving DecidableEq

namespace Numeral

/-- Takes an optional sign; a minus gives `true`. -/
def scanSign : List Char → Bool × List Char
  | '-' :: rest => (true, rest)
  | '+' :: rest => (false, rest)
  | text => (false, text)

/-- Takes an exponent, if a whole one follows. -/
def scanExponent (digit : Char → Bool) : List Char → Option (Bool × List Char) × List Char
  | [] => (none, [])
  | c :: text =>
    if c = 'e' ∨ c = 'E' then
      let (negative, rest) := scanSign text
      match rest.takeWhile digit with
      | [] => (none, c :: text)
      | digits => (some (negative, digits), rest.dropWhile digit)
    else (none, c :: text)

/-- Takes the longest numeral, given what counts as a digit, and what follows it. -/
def scan (digit : Char → Bool) (text : List Char) : Option (Numeral × List Char) :=
  let (negative, unsigned) := scanSign text
  let whole := unsigned.takeWhile digit
  let rest := unsigned.dropWhile digit
  let (fraction, rest) := match rest with
    | '.' :: after =>
      if whole.isEmpty && (after.takeWhile digit).isEmpty then (none, rest)
      else (some (after.takeWhile digit), after.dropWhile digit)
    | _ => (none, rest)
  if whole.isEmpty && fraction.isNone then none
  else
    let (exponent, rest) := scanExponent digit rest
    some (⟨negative, whole, fraction, exponent⟩, rest)

def isAscii (n : Numeral) : Bool :=
  n.whole.all isAsciiDigit && (n.fraction.getD []).all isAsciiDigit
    && (n.exponent.elim [] (·.2)).all isAsciiDigit

/-- The number that a row of ASCII digits denotes. -/
def digitsValue (digits : List Char) : Nat := Nat.ofDigitChars 10 digits 0

def signed (negative : Bool) (n : Nat) : Int := if negative then -(n : Int) else n

/-- The value of a numeral without fraction and exponent. -/
def toInt? (n : Numeral) : Option Int :=
  match n.fraction, n.exponent with
  | none, none => some (signed n.negative (digitsValue n.whole))
  | _, _ => none

def toBinary64 (n : Numeral) : Binary64 :=
  let fraction := n.fraction.getD []
  let exponent := n.exponent.elim 0 fun (negative, digits) => signed negative (digitsValue digits)
  .ofDecimal n.negative (digitsValue (n.whole ++ fraction)) (exponent - fraction.length)

end Numeral

end Assay
