import Assay.Pattern.Regex.ByteRuns
import Assay.Pattern.Regex.Place

/-!
# Footprint — how much room an expression takes

An expression is kept as two machines over bytes, one that reads a text forward and one that reads
it backward.  Each is made of states; some states carry a list of byte ranges and where they lead,
others a list of branches.  An expression is refused if one of its machines takes too much room,
and since a counted repetition is written out, that is a limit on counts above all.

* `footprint` is the room of both machines;
* `Footprint.fits` says that it is not too much.
-/

namespace Assay.Regex

/-- The room of the machine that reads forward and of the one that reads backward, in bytes. -/
structure Footprint where
  forward : Nat
  backward : Nat
  deriving DecidableEq

def stateRoom : Nat := 32

/-- The room of a byte range in a state. -/
def rangeRoom : Nat := 8

/-- The room of a branch in a state. -/
def branchRoom : Nat := 4

namespace Footprint

def both (room : Nat) : Footprint := ⟨room, room⟩

instance : Add Footprint := ⟨fun a b => ⟨a.forward + b.forward, a.backward + b.backward⟩⟩

def copies (count : Nat) (a : Footprint) : Footprint := ⟨count * a.forward, count * a.backward⟩

/-- So many states and branches in both machines. -/
def states (count branches : Nat) : Footprint :=
  both (count * stateRoom + branches * branchRoom)

def limit : Nat := 10 * 1024 * 1024

def fits (a : Footprint) : Bool := a.forward ≤ limit && a.backward ≤ limit

end Footprint

/-! ## Sets of characters -/

def maxBytes : Nat := 4

/-- The nodes below the root of the tree of byte runs. -/
def treeSize : Nat → List ByteRun → Nat
  | 0, _ => 0
  | depth + 1, runs =>
    (groupByFirst runs).foldl (fun size group => size + (1 + treeSize depth group.2)) 0

/-- The nodes of the trees of byte runs, level by level, equal ones of a level only once.  A node
is given by the runs that remain below it; ends are left out. -/
def treeNodes : Nat → List (List ByteRun) → List (List ByteRun)
  | 0, _ => []
  | depth + 1, nodes =>
    let below := nodes.flatMap fun runs =>
      (groupByFirst runs).filterMap fun group =>
        if group.2.all (·.isEmpty) then none else some group.2
    nodes ++ treeNodes depth below.eraseDups

/-- The room of a set of characters.  ASCII takes one state.  Otherwise the forward machine shares
equal endings of byte runs, and the backward machine shares equal beginnings. -/
def setFootprint (ranges : Ranges) : Footprint :=
  if ranges.all (·.2 < 0x80) then .both (2 * stateRoom + ranges.length * rangeRoom)
  else
    let runs := ranges.flatMap byteRuns
    let nodes := (treeNodes maxBytes [runs]).eraseDups
    let roomOf := fun node => stateRoom + (groupByFirst node).length * rangeRoom
    ⟨nodes.foldl (fun room node => room + roomOf node) stateRoom,
      2 * stateRoom + runs.length * branchRoom + treeSize maxBytes runs * stateRoom⟩

def wordFootprint : Footprint := setFootprint CharSet.wordRanges

/-! ## Texts -/

/-- The room of a tree of texts, without the end that they share.  A text that ends before others
go on divides those before it from those after it. -/
def textTreeRoom : Nat → List ByteRun → Nat
  | 0, _ => 0
  | depth + 1, texts =>
    if texts.all (·.isEmpty) then 0
    else
      let parts := texts.splitOnP (·.isEmpty)
      let groups := (parts.filter (!·.isEmpty)).map groupByFirst
      stateRoom + (groups.length + (parts.length - 1)) * branchRoom +
        (groups.map fun part =>
          stateRoom + (if part.length = 1 then 0 else part.length * rangeRoom) +
            (part.map fun group => textTreeRoom depth group.2).sum).sum

/-- The room of several texts, one of which is to be matched. -/
def textsFootprint (texts : List ByteRun) : Footprint :=
  let depth := texts.foldl (fun depth text => depth + text.length) 0
  ⟨stateRoom + textTreeRoom depth texts, stateRoom + textTreeRoom depth (texts.map List.reverse)⟩

/-! ## Patterns -/

/-- What a part of a pattern looks like, as far as its room depends on it. -/
inductive Form where
  | empty
  /-- Characters in a row. -/
  | text (codes : List Nat)
  /-- A set of characters, not of one. -/
  | set (ranges : Ranges)
  /-- So many branches, the room of all of them, and the branches if all are texts. -/
  | choice (count : Nat) (room : Footprint) (texts : Option (List (List Nat)))
  | other

/-- What is known of a part of a pattern. -/
structure Outline where
  form : Form
  room : Footprint
  /-- Every match takes a character. -/
  takesSome : Bool
  /-- No match takes a character. -/
  takesNone : Bool
  /-- Every match begins where the text begins. -/
  fromStart : Bool
  /-- Every match ends where the text ends. -/
  toEnd : Bool

namespace Outline

def empty : Outline := ⟨.empty, .states 1 0, false, true, false, false⟩

def ofPlace (place : Place) : Outline :=
  ⟨.other, .states 1 0, false, true, place.isStart, place.isEnd⟩

def text (codes : List Nat) : Outline :=
  ⟨.text codes, .states (codes.flatMap bytesOf).length 0, true, false, false, false⟩

/-- A set of characters with a room; one character is a text. -/
def ofRanges (ranges : Ranges) (room : Footprint) : Outline :=
  let several : Outline := ⟨.set ranges, room, !ranges.isEmpty, false, false, false⟩
  match ranges with
  | [(first, last)] => if first = last then text [first] else several
  | _ => several

def ofSet (set : CharSet) : Outline :=
  match set with
  | .word => ofRanges CharSet.wordRanges wordFootprint
  | _ => ofRanges set.ranges (setFootprint set.ranges)

def andThen (a b : Outline) : Outline :=
  match a.form, b.form with
  | .empty, _ => b
  | _, .empty => a
  | .text first, .text second =>
    ⟨.text (first ++ second), a.room + b.room, true, false, false, false⟩
  | _, _ =>
    ⟨.other, a.room + b.room, a.takesSome || b.takesSome, a.takesNone && b.takesNone,
      a.fromStart || a.takesNone && b.fromStart, b.toEnd || b.takesNone && a.toEnd⟩

/-- The characters, if the part is one character or a set. -/
def ranges? (a : Outline) : Option Ranges :=
  match a.form with
  | .text [code] => some [(code, code)]
  | .set ranges => some ranges
  | _ => none

/-- The branches of a part: their number, their room, and the branches if all are texts. -/
def branches (a : Outline) : Nat × Footprint × Option (List (List Nat)) :=
  match a.form with
  | .choice count room texts => (count, room, texts)
  | .text codes => (1, a.room, some [codes])
  | _ => (1, a.room, none)

/-- One of several branches.  Single characters and sets become one set, texts become a tree, and
other branches stand side by side. -/
def choice (outlines : List Outline) : Outline :=
  match outlines with
  | [a] => a
  | _ =>
    match outlines.mapM ranges? with
    | some sets =>
      let ranges := Ranges.normal sets.flatten
      ofRanges ranges (setFootprint ranges)
    | none =>
      let parts := outlines.map branches
      let count := parts.foldl (fun count part => count + part.1) 0
      let room := parts.foldl (fun sum part => sum + part.2.1) (.both 0)
      let texts : Option (List (List (List Nat))) := parts.mapM (·.2.2)
      let texts := texts.map List.flatten
      ⟨.choice count room texts,
        match texts with
        | some texts => textsFootprint (texts.map (·.flatMap bytesOf))
        | none => room + .states 2 count,
        outlines.all (·.takesSome), outlines.all (·.takesNone),
        outlines.all (·.fromStart), outlines.all (·.toEnd)⟩

/-- The room of a repetition of a part. -/
def repeatedRoom (a : Outline) (least : Nat) : Option Nat → Footprint
  | none => a.room.copies (max least 1) +
      if least = 0 && !a.takesSome then .states 3 4 else .states 1 2
  | some most =>
    if least = most then a.room.copies least
    else if least = 0 && most = 1 then a.room + .states 2 2
    else (if least = 0 then .states 1 0 else a.room.copies least) + .states 1 0 +
      (a.room + .states 1 2).copies (most - least)

/-- A repetition.  What takes no character need not be repeated. -/
def repeated (a : Outline) (least : Nat) (most : Option Nat) : Outline :=
  let (least, most) := if a.takesNone then (min least 1, some (min (most.getD 1) 1))
    else (least, most)
  if most = some 0 then empty
  else if least = 1 && most = some 1 then a
  else ⟨.other, a.repeatedRoom least most, least != 0 && a.takesSome, a.takesNone,
    least != 0 && a.fromStart, least != 0 && a.toEnd⟩

/-- A group whose match is kept apart, which only the forward machine does. -/
def group (a : Outline) : Outline :=
  { a with form := .other, room := a.room + ⟨2 * stateRoom, 0⟩ }

end Outline

/-- The outlines of the branches of a pattern. -/
def outlines : Pattern → List Outline
  | .empty => [.empty]
  | .symbol set => [.ofSet set]
  | .assertion place => [.ofPlace place]
  | .seq a b => [(Outline.choice (outlines a)).andThen (Outline.choice (outlines b))]
  | .alt a b => Outline.choice (outlines a) :: outlines b
  | .rep a least most => [(Outline.choice (outlines a)).repeated least most]
  | .group a => [(Outline.choice (outlines a)).group]

/-- The room of what looks for the place where a match begins: nothing to look for, or a loop over
all bytes. -/
def searchRoom (fixed : Bool) : Nat :=
  if fixed then stateRoom else 3 * stateRoom + 2 * branchRoom + rangeRoom

/-- The room of a pattern, the search for it included.  The whole match is a group, and both
machines end in a state of their own. -/
def footprint (pattern : Pattern) : Footprint :=
  let whole := (Outline.choice (outlines pattern)).group
  ⟨searchRoom whole.fromStart, searchRoom whole.toEnd⟩ + whole.room + .states 1 0

end Assay.Regex
