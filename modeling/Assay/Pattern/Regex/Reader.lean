import Assay.Numeral
import Assay.Pattern.Regex.Syntax
import Assay.Text.Character
import Assay.Text.Letter

/-!
# Reader of regular expressions

`Node.parse?` reads an expression to its end, or refuses it.  While blanks are ignored, white space
and comments may stand between any two characters, also inside numbers and names.

Every function takes what it reads off the front of the cursor and returns the rest.  Those that
call themselves take so many steps at most; each step takes a character.
-/

namespace Assay.Regex

/-- What is still to be read, and what earlier parts have settled. -/
structure Cursor where
  rest : List Char
  ignoreBlanks : Bool
  /-- The names of groups so far. -/
  names : List String

namespace Cursor

def dropComments : Nat → List Char → List Char
  | 0, text => text
  | _ + 1, [] => []
  | steps + 1, c :: rest =>
    if Text.isBlank c then dropComments steps rest
    else if c = '#' then dropComments steps ((rest.dropWhile (· != '\n')).drop 1)
    else c :: rest

def settle (cursor : Cursor) : Cursor :=
  if cursor.ignoreBlanks then
    { cursor with rest := dropComments (cursor.rest.length + 1) cursor.rest }
  else cursor

def bump (cursor : Cursor) : Cursor := { cursor with rest := cursor.rest.drop 1 }

/-- Drops one character, and then what does not count. -/
def advance (cursor : Cursor) : Cursor := cursor.bump.settle

def head? (cursor : Cursor) : Option Char := cursor.rest.head?

/-- The character after the next one that counts. -/
def afterHead? (cursor : Cursor) : Option Char := cursor.advance.head?

def take? (text : String) (cursor : Cursor) : Option Cursor :=
  if text.toList.isPrefixOf cursor.rest then
    some { cursor with rest := cursor.rest.drop text.length }
  else none

def takeRun (p : Char → Bool) : Nat → Cursor → List Char × Cursor
  | 0, cursor => ([], cursor)
  | steps + 1, cursor =>
    match cursor.rest with
    | [] => ([], cursor)
    | c :: _ =>
      if p c then
        let (run, after) := takeRun p steps cursor.advance
        (c :: run, after)
      else ([], cursor)

/-- Takes all characters of a class that come next. -/
def run (p : Char → Bool) (cursor : Cursor) : List Char × Cursor :=
  takeRun p (cursor.rest.length + 1) cursor

/-- Drops all characters of a class that come next. -/
def skip (p : Char → Bool) (cursor : Cursor) : Cursor := (cursor.run p).2

end Cursor

/-! ## Characters -/

def isMeta (c : Char) : Bool := "\\.+*?()|[]\x7b\x7d^$#&-~".toList.contains c

/-- Characters that a backslash may stand before without changing them. -/
def isEscapable (c : Char) : Bool :=
  isMeta c || (c.toNat < 0x80 && !c.isAlphanum && c != '<' && c != '>')

def hexValue (digits : List Char) : Nat :=
  digits.foldl (fun n c => 16 * n + (hexDigit? c).getD 0) 0

/-- The character of a code point, unless it is a surrogate or too large. -/
def charOfCode? (code : Nat) : Option Char :=
  if code < 0xD800 ∨ (0xE000 ≤ code ∧ code < 0x110000) then some (Char.ofNat code) else none

def takeHex : Nat → Cursor → Option (List Char × Cursor)
  | 0, cursor => some ([], cursor)
  | count + 1, cursor => do
    let c ← cursor.head?
    if isHexDigit c then
      let (digits, rest) ← takeHex count cursor.advance
      some (c :: digits, rest)
    else none

/-- Takes a code point: the given number of digits, or any number in braces. -/
def readHex? (digits : Nat) (cursor : Cursor) : Option (Literal × Cursor) := do
  let cursor := cursor.advance
  if cursor.head? = some '\x7b' then
    let (number, cursor) := cursor.advance.run isHexDigit
    if number.isEmpty ∨ cursor.head? ≠ some '\x7d' then none
    else
      let c ← charOfCode? (hexValue number)
      some (⟨c, false⟩, cursor.advance)
  else
    let (number, cursor) ← takeHex digits cursor
    let c ← charOfCode? (hexValue number)
    some (⟨c, digits == 2⟩, cursor)

/-- Splits a property text at the first place where one of the two marks stands. -/
def splitAtMark (mark : List Char) : List Char → Option (List Char × List Char)
  | [] => none
  | c :: rest =>
    if mark.isPrefixOf (c :: rest) then some ([], (c :: rest).drop mark.length)
    else (splitAtMark mark rest).map fun (before, after) => (c :: before, after)

/-- The query of a property between braces, and whether it is turned round. -/
def propertyOf (text : List Char) : PropertyQuery × Bool :=
  match splitAtMark ['!', '='] text with
  | some (name, value) => (.valued (.ofList name) (.ofList value), true)
  | none =>
    match splitAtMark [':'] text with
    | some (name, value) => (.valued (.ofList name) (.ofList value), false)
    | none =>
      match splitAtMark ['='] text with
      | some (name, value) => (.valued (.ofList name) (.ofList value), false)
      | none => (.named (.ofList text), false)

/-- Takes a property after its letter. -/
def readProperty? (negated : Bool) (cursor : Cursor) :
    Option ((PropertyQuery × Bool) × Cursor) := do
  let cursor := cursor.advance
  let c ← cursor.head?
  if c = '\x7b' then
    let (text, cursor) := cursor.advance.run (· != '\x7d')
    if cursor.head? = none then none
    else
      let (query, turned) := propertyOf text
      some ((query, negated != turned), cursor.bump)
  else if c = '\\' then none
  else some ((.named (String.singleton c), negated), cursor.advance)

/-- What a backslash and what follows it make. -/
inductive Escape where
  | literal (literal : Literal)
  | letter (letterClass : LetterClass) (negated : Bool)
  | property (query : PropertyQuery) (negated : Bool)
  | assertion (kind : Assertion)

/-- The kind of word boundary that a name in braces stands for. -/
def boundaryOfName? : String → Option Assertion
  | "start" => some .wordStart
  | "end" => some .wordEnd
  | "start-half" => some .wordStartHalf
  | "end-half" => some .wordEndHalf
  | _ => none

/-- Letters and the hyphen, which names of word boundaries are made of. -/
def isBoundaryNameChar (c : Char) : Bool := c.isAlpha || c == '-'

/-- Takes what follows the letter of a word boundary: a name in braces, unless the braces hold
something else. -/
def readBoundary? (cursor : Cursor) : Option (Assertion × Cursor) :=
  if cursor.head? = some '\x7b' then do
    let inside := cursor.advance
    let c ← inside.head?
    if isBoundaryNameChar c then
      let (name, inside) := inside.run isBoundaryNameChar
      if inside.head? ≠ some '\x7d' then none
      else
        let kind ← boundaryOfName? (String.ofList name)
        some (kind, inside.bump)
    else some (.wordBoundary, cursor)
  else some (.wordBoundary, cursor)

def controlOf? : Char → Option Char
  | 'a' => some '\x07'
  | 'f' => some '\x0c'
  | 't' => some '\t'
  | 'n' => some '\n'
  | 'r' => some '\r'
  | 'v' => some '\x0b'
  | _ => none

def readEscape? (cursor : Cursor) : Option (Escape × Cursor) := do
  let c ← cursor.head?
  let after := cursor.bump
  match c with
  | 'x' => let (l, rest) ← readHex? 2 cursor; some (.literal l, rest)
  | 'u' => let (l, rest) ← readHex? 4 cursor; some (.literal l, rest)
  | 'U' => let (l, rest) ← readHex? 8 cursor; some (.literal l, rest)
  | 'p' => let ((q, n), rest) ← readProperty? false cursor; some (.property q n, rest)
  | 'P' => let ((q, n), rest) ← readProperty? true cursor; some (.property q n, rest)
  | 'd' => some (.letter .digit false, after)
  | 'D' => some (.letter .digit true, after)
  | 's' => some (.letter .blank false, after)
  | 'S' => some (.letter .blank true, after)
  | 'w' => some (.letter .word false, after)
  | 'W' => some (.letter .word true, after)
  | 'A' => some (.assertion .textStart, after)
  | 'z' => some (.assertion .textEnd, after)
  | 'b' => let (kind, rest) ← readBoundary? after; some (.assertion kind, rest)
  | 'B' => some (.assertion .notWordBoundary, after)
  | '<' => some (.assertion .wordStart, after)
  | '>' => some (.assertion .wordEnd, after)
  | c =>
    match controlOf? c with
    | some control => some (.literal ⟨control, false⟩, after)
    | none => if isEscapable c then some (.literal ⟨c, false⟩, after) else none

/-! ## Brackets -/

def readAscii? (cursor : Cursor) : Option (Bracket × Cursor) := do
  let cursor ← cursor.take? "[:"
  let negated := cursor.head? = some '^'
  let cursor := if negated then cursor.bump else cursor
  let name := cursor.rest.takeWhile (· != ':')
  let cursor ← ({ cursor with rest := cursor.rest.drop name.length } : Cursor).take? ":]"
  let asciiClass ← AsciiClass.ofName? (String.ofList name)
  some (.ascii asciiClass negated, cursor)

def readBracketItem? (cursor : Cursor) : Option (Escape × Cursor) := do
  let c ← cursor.head?
  if c = '\\' then readEscape? cursor.bump else some (.literal ⟨c, false⟩, cursor.bump)

/-- Only single characters bound a range. -/
def Escape.literal? : Escape → Option Literal
  | .literal l => some l
  | _ => none

/-- Places cannot stand between brackets. -/
def Escape.bracket? : Escape → Option Bracket
  | .literal l => some (.single l)
  | .letter letterClass negated => some (.letter letterClass negated)
  | .property query negated => some (.property query negated)
  | .assertion _ => none

def readRange? (cursor : Cursor) : Option (Bracket × Cursor) := do
  let (first, cursor) ← readBracketItem? cursor
  let cursor := cursor.settle
  let c ← cursor.head?
  if c ≠ '-' ∨ cursor.afterHead? = some ']' ∨ cursor.afterHead? = some '-' then
    let item ← first.bracket?
    some (item, cursor)
  else
    let (last, cursor) ← readBracketItem? cursor.advance
    let first ← first.literal?
    let last ← last.literal?
    if first.char ≤ last.char then some (.range first last, cursor) else none

def openingHyphens : Nat → Cursor → List Bracket × Cursor
  | 0, cursor => ([], cursor)
  | steps + 1, cursor =>
    if cursor.head? = some '-' then
      let (items, rest) := openingHyphens steps cursor.advance
      (.single ⟨'-', false⟩ :: items, rest)
    else ([], cursor)

/-- Takes what opens a bracket: a negation, and hyphens or a closing bracket that stand for
themselves. -/
def openBracket (cursor : Cursor) : Bool × List Bracket × Cursor :=
  let cursor := cursor.advance
  let negated := cursor.head? = some '^'
  let cursor := if negated then cursor.advance else cursor
  match openingHyphens cursor.rest.length cursor with
  | ([], cursor) =>
    if cursor.head? = some ']' then (negated, [.single ⟨']', false⟩], cursor.advance)
    else (negated, [], cursor)
  | (items, cursor) => (negated, items, cursor)

/-- Joins the items read so far to what stands left of them. -/
def closeOperand (left : Option (SetOperation × Bracket)) (items : List Bracket) : Bracket :=
  match left with
  | some (operation, operand) => .operation operation operand (.ofItems items.reverse)
  | none => .ofItems items.reverse

/-- Takes a bracket up to its end, given what stands left of an operator and the items since, in
reverse. -/
def readBracket? : Nat → Option (SetOperation × Bracket) → List Bracket → Cursor →
    Option (Bracket × Cursor)
  | 0, _, _, _ => none
  | steps + 1, left, items, cursor =>
    let cursor := cursor.settle
    let operator (operation : SetOperation) :=
      readBracket? steps (some (operation, closeOperand left items)) []
        ⟨cursor.rest.drop 2, cursor.ignoreBlanks, cursor.names⟩
    match cursor.rest with
    | [] => none
    | '[' :: _ =>
      match readAscii? cursor with
      | some (item, cursor) => readBracket? steps left (item :: items) cursor
      | none => do
        let (negated, opening, inside) := openBracket cursor
        let (content, cursor) ← readBracket? steps none opening.reverse inside
        readBracket? steps left (.nested negated content :: items) cursor
    | ']' :: _ => some (closeOperand left items, cursor.bump)
    | '&' :: '&' :: _ => operator .intersection
    | '-' :: '-' :: _ => operator .difference
    | '~' :: '~' :: _ => operator .symmetricDifference
    | _ => do
      let (item, cursor) ← readRange? cursor
      readBracket? steps left (item :: items) cursor

/-! ## Groups and repetitions -/

/-- Takes flags up to the colon or parenthesis after them.  A flag must not come twice, and a minus
needs a flag after it. -/
def readFlags? : Nat → Bool → List Flag → List Flag → Cursor → Option (FlagChange × Cursor)
  | 0, _, _, _, _ => none
  | steps + 1, negated, on, off, cursor => do
    let c ← cursor.head?
    if c = ':' ∨ c = ')' then
      if negated ∧ off.isEmpty then none else some (⟨on, off⟩, cursor)
    else if c = '-' then
      if negated then none else readFlags? steps true on off cursor.bump
    else
      let flag ← Flag.ofChar? c
      if on.contains flag ∨ off.contains flag then none
      else if negated then readFlags? steps true on (flag :: off) cursor.bump
      else readFlags? steps false (flag :: on) off cursor.bump

/-- Characters that the name of a group may have. -/
def isNameChar (first : Bool) (c : Char) : Bool :=
  c == '_' || Text.isLetter c
    || !first && (c == '.' || c == '[' || c == ']' || Text.isNumber c)

/-- Takes the name of a group and the bracket that ends it. -/
def readName? (cursor : Cursor) : Option Cursor := do
  let name := cursor.rest.takeWhile (· != '>')
  let rest := cursor.rest.drop name.length
  if rest.isEmpty then none
  else
    match name with
    | [] => none
    | first :: others =>
      if isNameChar true first && others.all (isNameChar false)
          && !cursor.names.contains (String.ofList name) then
        some ⟨rest.drop 1, cursor.ignoreBlanks, String.ofList name :: cursor.names⟩
      else none

inductive Opening where
  | setFlags (change : FlagChange)
  | group (flags : Option FlagChange)

/-- Takes an opening parenthesis and what belongs to it.  Looking around is refused. -/
def readOpening? (cursor : Cursor) : Option (Opening × Cursor) := do
  let cursor := cursor.advance
  if ["?=", "?!", "?<=", "?<!"].any fun mark => (cursor.take? mark).isSome then none
  else
    match (cursor.take? "?P<").or (cursor.take? "?<") with
    | some inside =>
      let inside ← readName? inside
      some (.group none, inside)
    | none =>
      match cursor.take? "?" with
      | none => some (.group none, cursor)
      | some inside =>
        let (change, inside) ← readFlags? (inside.rest.length + 1) false [] [] inside
        if inside.head? = some ')' then
          if change.switchOn.isEmpty ∧ change.switchOff.isEmpty then none
          else some (.setFlags change, inside.bump)
        else some (.group (some change), inside.bump)

/-- Numbers in a repetition fit 32 bits. -/
def countOf? (digits : List Char) : Option Nat :=
  let n := Numeral.digitsValue digits
  if digits.isEmpty ∨ 2 ^ 32 ≤ n then none else some n

def readCount? (cursor : Cursor) : Option Nat × Cursor :=
  let (digits, rest) := (cursor.skip Text.isBlank).run isAsciiDigit
  (countOf? digits, rest.skip Text.isBlank)

/-- Takes a counted repetition in braces: the least and the greatest number of times. -/
def readCounts? (cursor : Cursor) : Option ((Nat × Option Nat) × Cursor) := do
  let (least, cursor) := readCount? cursor.advance
  let least ← least
  let (counts, cursor) ←
    if cursor.head? = some ',' then
      let cursor := cursor.advance
      if cursor.head? = some '\x7d' then some ((least, none), cursor)
      else do
        let (most, cursor) := readCount? cursor
        let most ← most
        some ((least, some most), cursor)
    else some ((least, some least), cursor)
  if cursor.head? ≠ some '\x7d' then none
  else if counts.2.any (· < least) then none
  else some (counts, cursor)

def repeatable : Node → Bool
  | .empty | .setFlags _ => false
  | _ => true

/-- Drops a question mark, which only says how much a repetition prefers to take. -/
def dropLazyMark (cursor : Cursor) : Cursor :=
  if cursor.head? = some '?' then cursor.bump else cursor

/-- A list of branches, the last of which is given by its items in reverse. -/
def closeBranches (branches : List Node) (items : List Node) : Node :=
  let last := Node.ofItems items.reverse
  match branches with
  | [] => last
  | _ => .alternation (last :: branches).reverse

def Escape.node : Escape → Node
  | .literal l => .literal l
  | .letter letterClass negated => .letter letterClass negated
  | .property query negated => .property query negated
  | .assertion kind => .assertion kind

/-- Takes branches up to a closing parenthesis or the end, given the branches and the items of the
last one so far, in reverse. -/
def readBranches? : Nat → List Node → List Node → Cursor → Option (Node × Cursor)
  | 0, _, _, _ => none
  | steps + 1, branches, items, cursor =>
    let cursor := cursor.settle
    let item (node : Node) (rest : Cursor) := readBranches? steps branches (node :: items) rest
    let repetition (least : Nat) (most : Option Nat) (rest : Cursor) :=
      match items with
      | body :: before =>
        if repeatable body then
          readBranches? steps branches (.repetition body least most :: before) (dropLazyMark rest)
        else none
      | [] => none
    match cursor.rest with
    | [] => some (closeBranches branches items, cursor)
    | c :: _ =>
      match c with
      | ')' => some (closeBranches branches items, cursor)
      | '|' => readBranches? steps (Node.ofItems items.reverse :: branches) [] cursor.bump
      | '(' => do
        let (opening, inside) ← readOpening? cursor
        match opening with
        | .setFlags change =>
          item (.setFlags change)
            { inside with ignoreBlanks := change.apply .ignoreBlanks cursor.ignoreBlanks }
        | .group flags =>
          let ignoreBlanks :=
            flags.elim cursor.ignoreBlanks (·.apply .ignoreBlanks cursor.ignoreBlanks)
          let (body, rest) ← readBranches? steps [] [] { inside with ignoreBlanks := ignoreBlanks }
          if rest.head? ≠ some ')' then none
          else item (.group flags body) ⟨rest.rest.drop 1, cursor.ignoreBlanks, rest.names⟩
      | '[' => do
        let (negated, opening, inside) := openBracket cursor
        let (content, rest) ← readBracket? (inside.rest.length + 1) none opening.reverse inside
        item (.bracket negated content) rest
      | '?' => repetition 0 (some 1) cursor.bump
      | '*' => repetition 0 none cursor.bump
      | '+' => repetition 1 none cursor.bump
      | '\x7b' => do
        let ((least, most), rest) ← readCounts? cursor
        repetition least most rest.advance
      | '\\' => do
        let (escape, rest) ← readEscape? cursor.bump
        item escape.node rest
      | '.' => item .dot cursor.bump
      | '^' => item (.assertion .lineStart) cursor.bump
      | '$' => item (.assertion .lineEnd) cursor.bump
      | c => item (.literal ⟨c, false⟩) cursor.bump

def depthLimit : Nat := 250

def Node.parse? (text : String) : Option Node := do
  let (node, rest) ← readBranches? (text.length + 1) [] [] ⟨text.toList, false, []⟩
  if rest.rest.isEmpty && node.depth ≤ depthLimit then some node else none

end Assay.Regex
