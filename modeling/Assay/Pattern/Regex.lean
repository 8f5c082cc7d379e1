import Assay.Pattern.Regex.Footprint
import Assay.Pattern.Regex.Property
import Assay.Pattern.Regex.Reader

/-!
# Regular expressions — what an expression means, and searching for it

A written expression becomes a regular pattern over character sets once the flags in force at each
place are known: a change of flags lasts to the end of the group in which it stands, also past a
bar.  An expression is refused if it could match a part of a character, or if it is too large with
its repetitions written out.

* `Regex.compile?` makes an expression;
* `Regex.isMatch` says that some part of a text matches.
-/

namespace Assay.Regex

structure Flags where
  caseInsensitive : Bool
  multiLine : Bool
  dotMatchesNewLine : Bool
  unicode : Bool
  crlf : Bool

namespace Flags

def standard : Flags := ⟨false, false, false, true, false⟩

def change (flags : Flags) (c : FlagChange) : Flags :=
  ⟨c.apply .caseInsensitive flags.caseInsensitive, c.apply .multiLine flags.multiLine,
    c.apply .dotMatchesNewLine flags.dotMatchesNewLine, c.apply .unicode flags.unicode,
    c.apply .crlf flags.crlf⟩

/-- Adds the case variants, if case is to be ignored. -/
def fold (flags : Flags) (set : CharSet) : CharSet :=
  if !flags.caseInsensitive then set else if flags.unicode then .folded set else .asciiFolded set

/-- Adds the case variants and turns the set round.  Bytes beyond ASCII are no characters, so only
sets of characters can be turned round. -/
def foldAndNegate? (flags : Flags) (negated : Bool) (set : CharSet) : Option CharSet :=
  if !negated then some (flags.fold set)
  else if flags.unicode then some (.complement (flags.fold set))
  else none

end Flags

namespace LetterClass

/-- The members, among all characters or in ASCII. -/
def set : LetterClass → Bool → CharSet
  | digit, true => .digit
  | digit, false => .range 0x30 0x39
  | blank, true => .blank
  | blank, false => .ofRanges AsciiClass.space.ranges
  | word, true => .word
  | word, false => .ofRanges AsciiClass.word.ranges

/-- The set of a class or of what is outside it. -/
def set? (letterClass : LetterClass) (flags : Flags) (negated : Bool) : Option CharSet :=
  if !negated then some (letterClass.set flags.unicode)
  else if flags.unicode then some (.complement (letterClass.set true))
  else none

end LetterClass

/-- The set of a property; properties belong to characters and not to bytes. -/
def propertySet? (query : PropertyQuery) (flags : Flags) (negated : Bool) : Option CharSet :=
  if flags.unicode then (query.set?).bind (flags.foldAndNegate? negated) else none

/-- A single character, outside brackets: a byte beyond ASCII is none. -/
def Literal.set? (literal : Literal) (flags : Flags) : Option CharSet :=
  if !flags.unicode && literal.byte && 0x80 ≤ literal.char.toNat then none
  else some (flags.fold (.single literal.char))

/-- A single character between brackets. -/
def Literal.code? (literal : Literal) (flags : Flags) : Option Nat :=
  if !flags.unicode && 0x80 ≤ literal.char.toNat then none else some literal.char.toNat

def SetOperation.apply : SetOperation → CharSet → CharSet → CharSet
  | intersection, a, b => .inter a b
  | difference, a, b => .diff a b
  | symmetricDifference, a, b => .symmDiff a b

mutual

def Bracket.set? (flags : Flags) : Bracket → Option CharSet
  | .single l => (l.code? flags).map fun code => .range code code
  | .range first last => do
    let first ← first.code? flags
    let last ← last.code? flags
    some (.range first last)
  | .letter letterClass negated => letterClass.set? flags negated
  | .ascii asciiClass negated => flags.foldAndNegate? negated (.ofRanges asciiClass.ranges)
  | .property query negated => propertySet? query flags negated
  | .nested negated content => (content.set? flags).bind (flags.foldAndNegate? negated)
  | .union items => Bracket.unionSet? flags items
  | .operation op left right => do
    let left ← left.set? flags
    let right ← right.set? flags
    some (op.apply (flags.fold left) (flags.fold right))
  termination_by structural bracket => bracket

def Bracket.unionSet? (flags : Flags) : List Bracket → Option CharSet
  | [] => some .none
  | item :: rest => do
    let first ← item.set? flags
    let others ← Bracket.unionSet? flags rest
    some (.union first others)
  termination_by structural items => items

end

def Assertion.place (flags : Flags) : Assertion → Place
  | .lineStart =>
    if !flags.multiLine then .textStart else if flags.crlf then .crlfStart else .lineStart
  | .lineEnd => if !flags.multiLine then .textEnd else if flags.crlf then .crlfEnd else .lineEnd
  | .textStart => .textStart
  | .textEnd => .textEnd
  | .wordBoundary => .boundary (fun before after => before != after) !flags.unicode
  | .notWordBoundary => .boundary (fun before after => before == after) !flags.unicode
  | .wordStart => .boundary (fun before after => !before && after) !flags.unicode
  | .wordEnd => .boundary (fun before after => before && !after) !flags.unicode
  | .wordStartHalf => .boundary (fun before _ => !before) !flags.unicode
  | .wordEndHalf => .boundary (fun _ after => !after) !flags.unicode

def dotSet? (flags : Flags) : Option CharSet :=
  if !flags.unicode then none
  else if flags.dotMatchesNewLine then some (.complement .none)
  else if flags.crlf then some (.complement (.ofRanges [(0xA, 0xA), (0xD, 0xD)]))
  else some (.complement (.range 0xA 0xA))

mutual

/-- The pattern of an expression under flags, and the flags that it leaves in force. -/
def Node.pattern? (flags : Flags) : Node → Option (Pattern × Flags)
  | .empty => some (.empty, flags)
  | .setFlags change => some (.empty, flags.change change)
  | .literal l => (l.set? flags).map fun set => (.symbol set, flags)
  | .dot => (dotSet? flags).map fun set => (.symbol set, flags)
  | .assertion kind => some (.assertion (kind.place flags), flags)
  | .letter letterClass negated =>
    (letterClass.set? flags negated).map fun set => (.symbol set, flags)
  | .property query negated =>
    (propertySet? query flags negated).map fun set => (.symbol set, flags)
  | .bracket negated content => do
    let set ← content.set? flags
    let set ← flags.foldAndNegate? negated set
    some (.symbol set, flags)
  | .repetition body least most => do
    let (pattern, flags) ← body.pattern? flags
    some (.rep pattern least most, flags)
  | .group none body => do
    let (pattern, _) ← body.pattern? flags
    some (.group pattern, flags)
  | .group (some change) body => do
    let (pattern, _) ← body.pattern? (flags.change change)
    some (pattern, flags)
  | .alternation branches => Node.alternative? flags branches
  | .concat items => Node.sequence? flags items
  termination_by structural node => node

def Node.alternative? (flags : Flags) : List Node → Option (Pattern × Flags)
  | [] => some (.symbol .none, flags)
  | [branch] => branch.pattern? flags
  | branch :: rest => do
    let (first, flags) ← branch.pattern? flags
    let (others, flags) ← Node.alternative? flags rest
    some (.alt first others, flags)
  termination_by structural branches => branches

def Node.sequence? (flags : Flags) : List Node → Option (Pattern × Flags)
  | [] => some (.empty, flags)
  | item :: rest => do
    let (first, flags) ← item.pattern? flags
    let (others, flags) ← Node.sequence? flags rest
    some (.seq first others, flags)
  termination_by structural items => items

end

end Regex

/-- A compiled expression and the text that it was compiled from. -/
structure Regex where
  source : String
  pattern : Regex.Pattern

namespace Regex

/-- The expression of a whole text: its items stand between the two ends. -/
def whole (source : String) (items : List Pattern) : Regex :=
  ⟨source, .inRow ([.assertion .textStart] ++ items ++ [.assertion .textEnd])⟩

/-- Compiles an expression, unless it is malformed or too large. -/
def compile? (source : String) : Option Regex := do
  let node ← Node.parse? source
  let (pattern, _) ← node.pattern? .standard
  if (footprint pattern).fits then some ⟨source, pattern⟩ else none

/-- Some part of the text matches. -/
def isMatch (regex : Regex) (text : String) : Bool :=
  let chars := text.toList
  let marked := regex.pattern.map
    (fun set => Regular.positionsOf (fun c => set.contains c.toNat) chars)
    (fun place => Regular.positionsOf place.holds (seams none chars))
  marked.reach chars.length (Regular.allPositions chars.length) != 0

end Regex

end Assay
