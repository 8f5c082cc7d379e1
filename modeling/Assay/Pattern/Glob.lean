import Assay.Pattern.Regular

/-!
# Shell patterns — globs over the bytes of a text

A pattern is compared with a whole text, byte by byte: `?` is any byte, `*` any bytes, a class in
brackets one of the bytes of its characters, and `\x7ba,b\x7d` one of several patterns.  Between
slashes `**` stands for any number of directories.

A text that is empty or ends in a point has no file name.  Patterns that are told by the file name
or its ending do not match it.

* `Glob.parse` reads a pattern or says why it is malformed;
* `GlobSet.isMatch` says that one of several patterns matches.
-/

namespace Assay

inductive GlobError where
  | unclosedClass
  | invalidRange (first last : Char)
  | unopenedAlternates
  | unclosedAlternates
  | danglingEscape
  deriving DecidableEq

namespace GlobError

def message : GlobError → String
  | unclosedClass => "unclosed character class; missing ']'"
  | invalidRange first last =>
    "invalid range; '" ++ String.singleton first ++ "' > '" ++ String.singleton last ++ "'"
  | unopenedAlternates =>
    "unopened alternate group; missing '\x7b' (maybe escape '\x7d' with '[\x7d]'?)"
  | unclosedAlternates =>
    "unclosed alternate group; missing '\x7d' (maybe escape '\x7b' with '[\x7b]'?)"
  | danglingEscape => "dangling '\\'"

end GlobError

inductive GlobToken where
  | literal (c : Char)
  | anyByte
  | anyBytes
  /-- Directories before the rest. -/
  | leadingDirectories
  /-- Everything below. -/
  | trailingDirectories
  /-- Directories between two slashes. -/
  | innerDirectories
  | oneOf (negated : Bool) (ranges : List (Char × Char))
  | alternates (branches : List (List GlobToken))

namespace Glob

/-- The tokens of a branch so far, in reverse, and the branches before it in its group. -/
structure Branch where
  tokens : List GlobToken
  before : List (List GlobToken)

/-- Takes the rest of a class, given its ranges in reverse.  `first` holds at its first character
and `open` after a hyphen that waits for the end of a range. -/
def readClass : List Char → (first isOpen : Bool) → List (Char × Char) →
    Except GlobError (List (Char × Char) × List Char)
  | [], _, _, _ => .error .unclosedClass
  | c :: rest, first, isOpen, ranges =>
    if c = ']' ∧ !first then
      .ok ((if isOpen then ('-', '-') :: ranges else ranges).reverse, rest)
    else if c = '-' ∧ !first ∧ !isOpen then readClass rest false true ranges
    else
      match isOpen, ranges with
      | true, (low, _) :: others =>
        if c < low then .error (.invalidRange low c)
        else readClass rest false false ((low, c) :: others)
      | _, _ => readClass rest false false ((c, c) :: ranges)

/-- What two stars make of the tokens before them, given the character before them, what follows
and whether a group is open; and what then follows. -/
def readStars (tokens : List GlobToken) (previous : Option Char) (inGroup : Bool)
    (text : List Char) : List GlobToken × List Char :=
  let plain := (.anyBytes :: .anyBytes :: tokens, text)
  match tokens with
  | [] =>
    match text with
    | [] => ([.leadingDirectories], [])
    | '/' :: rest => ([.leadingDirectories], rest)
    | _ => plain
  | last :: others =>
    if previous ≠ some '/' ∧ !(inGroup && (previous == some ',' || previous == some '\x7b')) then
      plain
    else
      let directories (inner : GlobToken) (rest : List Char) :=
        match last with
        | .leadingDirectories | .trailingDirectories => (tokens, rest)
        | _ => (inner :: others, rest)
      match text with
      | [] => directories .trailingDirectories []
      | '/' :: rest => directories .innerDirectories rest
      | c :: _ =>
        if inGroup ∧ (c = ',' ∨ c = '\x7d') then directories .trailingDirectories text else plain

/-- Reads a pattern, given the character before, the branch being read and the open ones around
it.  Each step takes a character. -/
def readTokens : Nat → Option Char → Branch → List Branch → List Char →
    Except GlobError (List GlobToken)
  | 0, _, _, _, _ => .error .unclosedAlternates
  | steps + 1, previous, branch, outer, text =>
    let push (token : GlobToken) (last : Char) (rest : List Char) :=
      readTokens steps (some last) ⟨token :: branch.tokens, branch.before⟩ outer rest
    match text with
    | [] => if outer.isEmpty then .ok branch.tokens.reverse else .error .unclosedAlternates
    | '?' :: rest => push .anyByte '?' rest
    | '*' :: '*' :: rest =>
      let (tokens, after) := readStars branch.tokens previous (!outer.isEmpty) rest
      let last := if after.length < rest.length then '/' else '*'
      readTokens steps (some last) ⟨tokens, branch.before⟩ outer after
    | '*' :: rest => push .anyBytes '*' rest
    | '[' :: rest =>
      let (negated, rest) := match rest with
        | '!' :: rest | '^' :: rest => (true, rest)
        | _ => (false, rest)
      match readClass rest true false [] with
      | .ok (ranges, rest) => push (.oneOf negated ranges) ']' rest
      | .error e => .error e
    | '\x7b' :: rest => readTokens steps (some '\x7b') ⟨[], []⟩ (branch :: outer) rest
    | '\x7d' :: rest =>
      match outer with
      | [] => .error .unopenedAlternates
      | parent :: outer =>
        let group := .alternates (branch.tokens.reverse :: branch.before).reverse
        readTokens steps (some '\x7d') ⟨group :: parent.tokens, parent.before⟩ outer rest
    | ',' :: rest =>
      if outer.isEmpty then push (.literal ',') ',' rest
      else readTokens steps (some ',') ⟨[], branch.tokens.reverse :: branch.before⟩ outer rest
    | '\\' :: rest =>
      match rest with
      | [] => .error .danglingEscape
      | c :: rest => push (.literal c) c rest
    | c :: rest => push (.literal c) c rest

structure ByteSet where
  negated : Bool
  ranges : List (Nat × Nat)

namespace ByteSet

def contains (set : ByteSet) (byte : Nat) : Bool :=
  (set.ranges.any fun r => r.1 ≤ byte && byte ≤ r.2) != set.negated

def any : ByteSet := ⟨true, []⟩

def single (byte : Nat) : ByteSet := ⟨false, [(byte, byte)]⟩

end ByteSet

/-- A pattern of bytes; there are no assertions. -/
abbrev Pattern := Regular ByteSet Empty

def byte (c : Char) : Pattern := .symbol (.single c.toNat)

def anything : Pattern := .star (.symbol .any)

def bytesOf (c : Char) : List Nat := (String.utf8EncodeChar c).map UInt8.toNat

/-- The bytes that a range of characters admits: a hyphen joins the last byte of its first
character with the first byte of its last one. -/
def rangeBytes (range : Char × Char) : List (Nat × Nat) :=
  let single := (bytesOf range.1).map fun b => (b, b)
  if range.1 = range.2 then single
  else
    single.dropLast ++ ((bytesOf range.1).getLast?.bind fun low =>
        (bytesOf range.2).head?.map fun high => (low, high)).toList
      ++ ((bytesOf range.2).drop 1).map fun b => (b, b)

mutual

/-- Nothing is written for the token: it is a group of such branches. -/
def GlobToken.isVoid : GlobToken → Bool
  | .alternates branches => allVoid branches
  | _ => false
  termination_by structural token => token

/-- No token of the branch is written. -/
def branchVoid : List GlobToken → Bool
  | [] => true
  | token :: rest => GlobToken.isVoid token && branchVoid rest
  termination_by structural tokens => tokens

def allVoid : List (List GlobToken) → Bool
  | [] => true
  | branch :: rest => branchVoid branch && allVoid rest
  termination_by structural branches => branches

end

mutual

def tokenPattern : GlobToken → Pattern
  | .literal c => .seqs ((bytesOf c).map fun b => .symbol (.single b))
  | .anyByte => .symbol .any
  | .anyBytes => anything
  | .leadingDirectories => .alt (.optional (byte '/')) (.seq anything (byte '/'))
  | .trailingDirectories => .seq (byte '/') anything
  | .innerDirectories => .alt (byte '/') (.seq (byte '/') (.seq anything (byte '/')))
  | .oneOf negated ranges => .symbol ⟨negated, ranges.flatMap rangeBytes⟩
  | .alternates branches => if allVoid branches then .empty else branchesPattern branches
  termination_by structural token => token

def tokensPattern : List GlobToken → Pattern
  | [] => .empty
  | token :: rest => .seq (tokenPattern token) (tokensPattern rest)
  termination_by structural tokens => tokens

/-- The pattern of alternatives; empty ones do not count. -/
def branchesPattern : List (List GlobToken) → Pattern
  | [] => .symbol ⟨false, []⟩
  | branch :: rest =>
    if branchVoid branch then branchesPattern rest
    else .alt (tokensPattern branch) (branchesPattern rest)
  termination_by structural branches => branches

end

def literal? : GlobToken → Option Char
  | .literal c => some c
  | _ => none

def allLiteral (tokens : List GlobToken) : Bool := tokens.all fun t => (literal? t).isSome

/-- The pattern ends in a point and is told by the file name: it is a name in any directory, or it
has a part that is not literal, a star before a longer ending apart. -/
def needsFileName (tokens : List GlobToken) : Bool :=
  let isPoint (t : GlobToken) := literal? t == some '.'
  let isSlash (t : GlobToken) := literal? t == some '/'
  if !(tokens.getLast?.any isPoint) then false
  else
    match tokens with
    | .leadingDirectories :: name =>
      if allLiteral name then !name.any isSlash
      else match name with
        | .anyBytes :: ending => !allLiteral ending || ending.length == 1
        | _ => true
    | .anyBytes :: ending => !allLiteral ending || ending.length == 1
    | _ => !allLiteral tokens

end Glob

/-- A shell pattern and the text that it was read from. -/
structure Glob where
  source : String
  tokens : List GlobToken

namespace Glob

def parse (source : String) : Except GlobError Glob :=
  match readTokens (source.length + 1) none ⟨[], []⟩ [] source.toList with
  | .ok tokens => .ok ⟨source, tokens⟩
  | .error e => .error e

/-- The pattern of the whole text.  Two stars alone match everything. -/
def pattern (glob : Glob) : Pattern :=
  match glob.tokens with
  | [.leadingDirectories] => anything
  | tokens => tokensPattern tokens

/-- The whole text matches. -/
def isMatch (glob : Glob) (text : String) : Bool :=
  let bytes := text.toUTF8.toList.map UInt8.toNat
  let marked := glob.pattern.map
    (fun set => Regular.positionsOf set.contains bytes) (fun t => nomatch t)
  (marked.reach bytes.length 1).testBit bytes.length
    && !(text.toList.getLast? == some '.' && needsFileName glob.tokens)

end Glob

structure GlobSet where
  globs : List Glob

namespace GlobSet

def sources (set : GlobSet) : List String := set.globs.map (·.source)

/-- One of the patterns matches. -/
def isMatch (set : GlobSet) (text : String) : Bool := set.globs.any (·.isMatch text)

end GlobSet

end Assay
