/-!
# Punycode — characters of any script in letters, digits and hyphens

The characters that are ASCII stand first, up to the last hyphen.  The others follow as a list of
insertions: each number, written with digits of variable weight, says how far to go on in the
sequence of all pairs of a code point and a place.
-/

namespace Assay.Punycode

/-- The value of a digit: letters first, then numerals. -/
def digit? (c : Char) : Option Nat :=
  if 'a' ≤ c ∧ c ≤ 'z' then some (c.toNat - 'a'.toNat)
  else if 'A' ≤ c ∧ c ≤ 'Z' then some (c.toNat - 'A'.toNat)
  else if '0' ≤ c ∧ c ≤ '9' then some (c.toNat - '0'.toNat + 26)
  else none

def threshold (place bias : Nat) : Nat :=
  if place ≤ bias then 1 else if bias + 26 ≤ place then 26 else place - bias

/-- Divides until the number is small, and counts by 36. -/
def settleBias : Nat → Nat → Nat → Nat
  | 0, delta, count => count + 36 * delta / (delta + 38)
  | steps + 1, delta, count =>
    if 455 < delta then settleBias steps (delta / 35) (count + 36)
    else count + 36 * delta / (delta + 38)

def adapt (delta points : Nat) (first : Bool) : Nat :=
  let delta := if first then delta / 700 else delta / 2
  settleBias delta (delta + delta / points) 0

/-- Takes a number: the value so far and the weight and place of the next digit are given. -/
def readNumber? (bias : Nat) : Nat → Nat → Nat → List Char → Option (Nat × List Char)
  | _, _, _, [] => none
  | value, weight, place, c :: rest => do
    let digit ← digit? c
    let value := value + digit * weight
    let t := threshold place bias
    if digit < t then some (value, rest)
    else readNumber? bias value (weight * (36 - t)) (place + 36) rest

/-- Makes the insertions that a text describes.  Each takes a digit or more. -/
def insertAll? : Nat → (code index bias : Nat) → List Char → List Nat → Option (List Nat)
  | _, _, _, _, [], codes => some codes
  | 0, _, _, _, _, _ => none
  | steps + 1, code, index, bias, text, codes => do
    let (delta, rest) ← readNumber? bias 0 1 36 text
    let points := codes.length + 1
    let total := index + delta
    let code := code + total / points
    let place := total % points
    if 0x110000 ≤ code ∨ (0xD800 ≤ code ∧ code < 0xE000) then none
    else
      insertAll? steps code (place + 1) (adapt delta points (codes.all (· < 0x80))) rest
        (codes.take place ++ code :: codes.drop place)

/-- The code points that a text stands for. -/
def decode? (text : List Char) : Option (List Nat) :=
  let tail := (text.reverse.takeWhile (· != '-')).reverse
  let basic := text.take (text.length - tail.length - 1)
  if tail.length = text.length ∨ basic.isEmpty then insertAll? text.length 128 0 72 text []
  else insertAll? text.length 128 0 72 tail (basic.map Char.toNat)

end Assay.Punycode
