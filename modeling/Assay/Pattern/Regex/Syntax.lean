/-!
# Syntax of regular expressions

The tree of a written expression, before flags are applied.  Every construct that the notation has
is a constructor, so that what a construct means can depend on the flags in force where it stands.
-/

namespace Assay.Regex

inductive Flag where
  | caseInsensitive
  | multiLine
  | dotMatchesNewLine
  | swapGreed
  | unicode
  | crlf
  | ignoreBlanks
  deriving DecidableEq

namespace Flag

def ofChar? : Char → Option Flag
  | 'i' => some caseInsensitive
  | 'm' => some multiLine
  | 's' => some dotMatchesNewLine
  | 'U' => some swapGreed
  | 'u' => some unicode
  | 'R' => some crlf
  | 'x' => some ignoreBlanks
  | _ => none

end Flag

structure FlagChange where
  switchOn : List Flag
  switchOff : List Flag

namespace FlagChange

/-- What becomes of a flag, given what it was. -/
def apply (change : FlagChange) (flag : Flag) (before : Bool) : Bool :=
  if change.switchOn.contains flag then true
  else if change.switchOff.contains flag then false
  else before

end FlagChange

/-- A single character.  One that is written by two hexadecimal digits may also stand for a byte. -/
structure Literal where
  char : Char
  byte : Bool

/-- The places that an expression can ask for. -/
inductive Assertion where
  | lineStart
  | lineEnd
  | textStart
  | textEnd
  | wordBoundary
  | notWordBoundary
  | wordStart
  | wordEnd
  | wordStartHalf
  | wordEndHalf

/-- Classes with a letter of their own. -/
inductive LetterClass where
  | digit
  | blank
  | word

inductive AsciiClass where
  | alnum
  | alpha
  | ascii
  | blank
  | cntrl
  | digit
  | graph
  | lower
  | print
  | punct
  | space
  | upper
  | word
  | xdigit

namespace AsciiClass

def ofName? : String → Option AsciiClass
  | "alnum" => some alnum
  | "alpha" => some alpha
  | "ascii" => some ascii
  | "blank" => some blank
  | "cntrl" => some cntrl
  | "digit" => some digit
  | "graph" => some graph
  | "lower" => some lower
  | "print" => some print
  | "punct" => some punct
  | "space" => some space
  | "upper" => some upper
  | "word" => some word
  | "xdigit" => some xdigit
  | _ => none

def ranges : AsciiClass → List (Nat × Nat)
  | alnum => [(0x30, 0x39), (0x41, 0x5A), (0x61, 0x7A)]
  | alpha => [(0x41, 0x5A), (0x61, 0x7A)]
  | ascii => [(0, 0x7F)]
  | blank => [(9, 9), (0x20, 0x20)]
  | cntrl => [(0, 0x1F), (0x7F, 0x7F)]
  | digit => [(0x30, 0x39)]
  | graph => [(0x21, 0x7E)]
  | lower => [(0x61, 0x7A)]
  | print => [(0x20, 0x7E)]
  | punct => [(0x21, 0x2F), (0x3A, 0x40), (0x5B, 0x60), (0x7B, 0x7E)]
  | space => [(9, 0xD), (0x20, 0x20)]
  | upper => [(0x41, 0x5A)]
  | word => [(0x30, 0x39), (0x41, 0x5A), (0x5F, 0x5F), (0x61, 0x7A)]
  | xdigit => [(0x30, 0x39), (0x41, 0x46), (0x61, 0x66)]

end AsciiClass

/-- A property by name, or by name and value. -/
inductive PropertyQuery where
  | named (name : String)
  | valued (name value : String)

inductive SetOperation where
  | intersection
  | difference
  | symmetricDifference

inductive Bracket where
  | single (literal : Literal)
  | range (first last : Literal)
  | letter (letterClass : LetterClass) (negated : Bool)
  | ascii (asciiClass : AsciiClass) (negated : Bool)
  | property (query : PropertyQuery) (negated : Bool)
  | nested (negated : Bool) (content : Bracket)
  | union (items : List Bracket)
  | operation (operation : SetOperation) (left right : Bracket)

/-- A written expression. -/
inductive Node where
  | empty
  | setFlags (change : FlagChange)
  | literal (literal : Literal)
  | dot
  | assertion (kind : Assertion)
  | letter (letterClass : LetterClass) (negated : Bool)
  | property (query : PropertyQuery) (negated : Bool)
  | bracket (negated : Bool) (content : Bracket)
  | repetition (body : Node) (least : Nat) (most : Option Nat)
  | group (flags : Option FlagChange) (body : Node)
  | alternation (branches : List Node)
  | concat (items : List Node)

/-- Items in a row: one item stands for itself. -/
def Node.ofItems : List Node → Node
  | [] => .empty
  | [item] => item
  | items => .concat items

/-- Items between brackets: one item stands for itself. -/
def Bracket.ofItems : List Bracket → Bracket
  | [item] => item
  | items => .union items

mutual

def Bracket.depth : Bracket → Nat
  | .nested _ content => content.depth + 1
  | .union items => if items.isEmpty then 0 else Bracket.depths items + 1
  | .operation _ left right => max left.depth right.depth + 1
  | _ => 0
  termination_by structural bracket => bracket

def Bracket.depths : List Bracket → Nat
  | [] => 0
  | item :: rest => max item.depth (Bracket.depths rest)
  termination_by structural items => items

end

mutual

def Node.depth : Node → Nat
  | .bracket _ content => content.depth + 1
  | .repetition body _ _ => body.depth + 1
  | .group _ body => body.depth + 1
  | .alternation branches => Node.depths branches + 1
  | .concat items => Node.depths items + 1
  | _ => 0
  termination_by structural node => node

def Node.depths : List Node → Nat
  | [] => 0
  | item :: rest => max item.depth (Node.depths rest)
  termination_by structural items => items

end

end Assay.Regex
