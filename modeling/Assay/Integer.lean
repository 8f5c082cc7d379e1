import Assay.Numeral

/-!
# Integers — whole numbers between bounds

A text is read digit by digit, and the first digit that does not fit ends the reading: of a text
that is both too large and malformed later on, the size is told.
-/

namespace Assay

/-- Why a text is no integer between the bounds. -/
inductive IntegerFlaw where
  | empty
  | invalidDigit
  | tooLarge
  | tooSmall
  deriving DecidableEq

namespace IntegerFlaw

def message : IntegerFlaw → String
  | empty => "cannot parse integer from empty string"
  | invalidDigit => "invalid digit found in string"
  | tooLarge => "number too large to fit in target type"
  | tooSmall => "number too small to fit in target type"

end IntegerFlaw

namespace Integer

/-- Appends digits to a number that may not pass the limit. -/
def appendDigits (limit : Nat) (overflow : IntegerFlaw) (n : Nat) :
    List Char → Except IntegerFlaw Nat
  | [] => .ok n
  | c :: rest =>
    if isAsciiDigit c then
      let m := n * 10 + (c.toNat - '0'.toNat)
      if m ≤ limit then appendDigits limit overflow m rest else .error overflow
    else .error .invalidDigit

def readDigits (limit : Nat) (overflow : IntegerFlaw) (text : List Char) :
    Except IntegerFlaw Nat :=
  if text.isEmpty then .error .invalidDigit else appendDigits limit overflow 0 text

/-- Reads an integer between bounds around zero.  A plus may stand before it, and a minus where
there are negative numbers. -/
def read (least greatest : Int) (text : String) : Except IntegerFlaw Int :=
  match text.toList with
  | [] => .error .empty
  | '+' :: digits => return (← readDigits greatest.toNat .tooLarge digits)
  | '-' :: digits =>
    if least < 0 then return -(← readDigits (-least).toNat .tooSmall digits)
    else .error .invalidDigit
  | digits => return (← readDigits greatest.toNat .tooLarge digits)

end Integer

end Assay
