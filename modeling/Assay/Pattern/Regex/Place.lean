import Assay.Pattern.CharSet
import Assay.Pattern.Regular

/-!
# Places — where a pattern asks for an edge

A place lies between two characters of a text, or at one of its ends, and whether it is the right
one is told by the characters before and after it.

* `Place.holds` tells a place by its neighbours;
* `seams` are the neighbours at every position of a text.
-/

namespace Assay.Regex

inductive Place where
  | textStart
  | textEnd
  | lineStart
  | lineEnd
  | crlfStart
  | crlfEnd
  | boundary (isWord : Bool → Bool → Bool) (ascii : Bool)

abbrev Pattern := Regular CharSet Place

namespace Place

/-- The place lies only where the text begins. -/
def isStart : Place → Bool
  | textStart => true
  | _ => false

/-- The place lies only where the text ends. -/
def isEnd : Place → Bool
  | textEnd => true
  | _ => false

def holds : Place → Option Char × Option Char → Bool
  | textStart, (before, _) => before.isNone
  | textEnd, (_, after) => after.isNone
  | lineStart, (before, _) => before.isNone || before == some '\n'
  | lineEnd, (_, after) => after.isNone || after == some '\n'
  | crlfStart, (before, after) =>
    before.isNone || before == some '\n' || (before == some '\r' && after != some '\n')
  | crlfEnd, (before, after) =>
    after.isNone || after == some '\r' || (after == some '\n' && before != some '\r')
  | boundary test ascii, (before, after) =>
    let isWord := if ascii then Text.isAsciiWordChar else Text.isWordChar
    test (before.any isWord) (after.any isWord)

end Place

/-- The neighbours of every position of a text: the character before it and the one after it. -/
def seams : Option Char → List Char → List (Option Char × Option Char)
  | before, [] => [(before, none)]
  | before, c :: rest => (before, some c) :: seams (some c) rest

end Assay.Regex
