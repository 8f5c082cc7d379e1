import Assay.Text.Composition
import Assay.Text.Direction
import Assay.Text.DomainTable
import Assay.Url.Punycode

/-!
# Domains — the labels of international names

A name is brought to its standard characters and split at its points.  A label that begins with
`xn--` is Punycode.  Labels must not begin with a mark, joiners need the right neighbours, and a
name with a part that is written from right to left follows the rules for direction.
-/

namespace Assay.Domain

def isForbidden (c : Char) : Bool :=
  c.toNat ≤ 0x20 || c.toNat == 0x7F || "#%/:<>?@[\\]^|".toList.contains c

def isKept (c : Char) : Bool :=
  (Text.domainMapping.row? c.toNat).isNone && !Text.domainIgnored.contains c.toNat
    && !Text.domainDisallowed.contains c.toNat

/-- What a character stands for, if it may stand in a name. -/
def standard? (c : Char) : Option (List Char) :=
  let code := c.toNat
  if Text.domainDisallowed.contains code then none
  else if Text.domainIgnored.contains code then some []
  else match Text.domainMapping.images? code with
    | some codes => some (codes.map Char.ofNat)
    | none => some [c]

def standardize? (name : List Char) : Option (List Char) :=
  match name.mapM standard? with
  | some parts =>
    let chars := parts.flatten
    if chars.any isForbidden then none
    else some ((Text.composed (chars.map Char.toNat)).map Char.ofNat)
  | none => none

/-- A Punycode label is at most so long after its first four characters. -/
def codeLimit : Nat := 2000

/-- A label that Punycode has to stand for is at most so long. -/
def plainLimit : Nat := 1000

/-- A label in its own characters.  Punycode must stand for standard characters, not all of them
ASCII. -/
def label? (label : List Char) : Option (List Char) :=
  match label with
  | 'x' :: 'n' :: '-' :: '-' :: code =>
    match if code.length ≤ codeLimit then Punycode.decode? code else none with
    | some codes =>
      let chars := codes.map Char.ofNat
      if codes.all (· < 0x80) || !chars.all isKept || chars.any isForbidden
          || Text.composed codes != codes then none
      else some chars
    | none => none
  | _ => some label

def isMark (c : Char) : Bool :=
  Text.domainMarks.contains c.toNat

def nonJoiner : Char := Char.ofNat 0x200C

def joiner : Char := Char.ofNat 0x200D

/-- The nearest neighbour that joining does not pass through is in one of the tables. -/
def joinsWith (tables : List Text.CodeTable) (neighbours : List Char) : Bool :=
  match neighbours.dropWhile fun c => Text.transparentJoining.contains c.toNat with
  | c :: _ => tables.any (·.contains c.toNat)
  | [] => false

/-- Joiners stand after a virama; the non-joiner also between letters that would join.  What comes
before is given in reverse. -/
def joinersFit (before : List Char) : List Char → Bool
  | [] => true
  | c :: rest =>
    (if c = nonJoiner ∨ c = joiner then
      match before with
      | [] => false
      | previous :: _ =>
        Text.combiningClass previous.toNat == 9
          || c == nonJoiner && joinsWith [Text.leftJoining, Text.dualJoining] before
              && joinsWith [Text.rightJoining, Text.dualJoining] rest
      else true)
      && joinersFit (c :: before) rest

/-- A class that makes a name one that is written from right to left. -/
def isRightToLeft (d : Text.Direction) : Bool :=
  d == .rightToLeft || d == .arabicLetter || d == .arabicNumber

/-- Classes that may stand in a label of either direction. -/
def isNeutral (d : Text.Direction) : Bool :=
  [.europeanNumber, .europeanSeparator, .commonSeparator, .europeanTerminator, .otherNeutral,
    .boundaryNeutral, .nonspacingMark].contains d

/-- A label follows the rules for direction, as far as its name has parts from right to left. -/
def directionFits (label : List Char) : Bool :=
  let directions := label.map Text.directionOf
  let last := (directions.drop 1).reverse.dropWhile (· == .nonspacingMark)
  match directions.head? with
  | none => true
  | some .leftToRight =>
    match last with
    | [] => true
    | final :: middle =>
      (final == .leftToRight || final == .europeanNumber)
        && middle.all fun d => d == .leftToRight || isNeutral d
  | some first =>
    if first == .rightToLeft || first == .arabicLetter then
      match last with
      | [] => true
      | final :: middle =>
        (isRightToLeft final || final == .europeanNumber)
          && (middle.all fun d => isRightToLeft d || isNeutral d)
          && !(last.contains .europeanNumber && last.contains .arabicNumber)
    else false

/-- Punycode can stand for the label, if it has to. -/
def isEncodable (label : List Char) : Bool :=
  label.all (·.toNat < 0x80) || label.length ≤ plainLimit

def labels? (name : List Char) : Option (List (List Char)) := do
  let chars ← standardize? name
  let labels ← (chars.splitOn '.').mapM label?
  let startsRight := labels.all fun label => !label.head?.any isMark
  let fromRight := labels.any fun label => label.any fun c => isRightToLeft (Text.directionOf c)
  let keepsDirection := !fromRight || labels.all directionFits
  if startsRight && labels.all isEncodable && labels.all (joinersFit []) && keepsDirection then
    some labels
  else none

end Assay.Domain
