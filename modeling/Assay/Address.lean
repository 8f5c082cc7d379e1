import Assay.Numeral

/-!
# Addresses — the texts of internet addresses

A version 4 address is four numbers up to 255 without leading zeros.  A version 6 address is eight
groups of one to four hexadecimal digits; two colons stand for a run of groups, and the last two
groups may be written as a version 4 address.
-/

namespace Assay.Address

/-- Takes a number up to 255 of one to three digits without a leading zero. -/
def readByte? (text : List Char) : Option (List Char) :=
  let digits := text.takeWhile isAsciiDigit
  if digits.isEmpty || 3 < digits.length || (digits.length > 1 && digits.head? == some '0')
      || 255 < Numeral.digitsValue digits then none
  else some (text.drop digits.length)

def readChar? (c : Char) : List Char → Option (List Char)
  | d :: rest => if c = d then some rest else none
  | [] => none

def readV4? (text : List Char) : Option (List Char) := do
  let rest ← readByte? text
  let rest ← readByte? (← readChar? '.' rest)
  let rest ← readByte? (← readChar? '.' rest)
  readByte? (← readChar? '.' rest)

def readGroup? (text : List Char) : Option (List Char) :=
  let digits := text.takeWhile isHexDigit
  if digits.isEmpty || 4 < digits.length then none else some (text.drop digits.length)

structure Groups where
  count : Nat
  /-- The last two are a version 4 address. -/
  endsInV4 : Bool
  rest : List Char

/-- Takes up to `limit` more groups, each after a colon but the first. -/
def readGroups (first : Bool) : Nat → List Char → Groups
  | 0, text => ⟨0, false, text⟩
  | limit + 1, text =>
    let separated := if first then some text else readChar? ':' text
    match (if limit = 0 then none else separated.bind readV4?) with
    | some rest => ⟨2, true, rest⟩
    | none =>
      match separated.bind readGroup? with
      | some rest =>
        let groups := readGroups false limit rest
        ⟨groups.count + 1, groups.endsInV4, groups.rest⟩
      | none => ⟨0, false, text⟩

def readV6? (text : List Char) : Option (List Char) :=
  let head := readGroups true 8 text
  if head.count = 8 then some head.rest
  else if head.endsInV4 then none
  else do
    let rest ← readChar? ':' head.rest
    let rest ← readChar? ':' rest
    some (readGroups true (7 - head.count) rest).rest

def isAddress (text : String) : Bool :=
  match readV4? text.toList with
  | some rest => rest.isEmpty
  | none => (readV6? text.toList).any List.isEmpty

end Assay.Address
