import Assay.Check.Coercion
import Assay.Pattern.Regex
import Assay.Url

/-!
# Formats — addresses and patterns

Formats never change a value.  Those of addresses want a text, and the empty text passes.
-/

namespace Assay.Check

def formatted (fault : Fault) (valid : String → Bool) (value : Value) : Outcome :=
  match value with
  | .str s => if s = "" ∨ valid s then .ok value else .fail value fault
  | _ => .fail value fault

/-! ## Electronic mail -/

/-- One to 63 letters, digits and hyphens, with no hyphen at either end. -/
def labelExpression : String := "[a-zA-Z0-9](?:[a-zA-Z0-9-]\x7b0,61\x7d[a-zA-Z0-9])?"

/-- A mailbox, an at sign, and labels between points. -/
def mailExpression : String :=
  "^[a-zA-Z0-9.!#$%&'*+/=?^_\x60\x7b|\x7d~-]+@" ++ labelExpression
    ++ "(?:\\." ++ labelExpression ++ ")*$"

def alphanumericsAnd (others : List Char) : CharSet :=
  .bracket ([(0x61, 0x7A), (0x41, 0x5A), (0x30, 0x39)] ++ others.map fun c => (c.toNat, c.toNat))

/-- The characters of a mailbox, besides letters and digits. -/
def mailboxMarks : List Char := ".!#$%&'*+/=?^_\x60\x7b|\x7d~-".toList

def labelItems : List Regex.Pattern :=
  [.symbol (alphanumericsAnd []),
    .optional (.inRow [.rep (.symbol (alphanumericsAnd ['-'])) 0 (some 61),
      .symbol (alphanumericsAnd [])])]

def mailItems : List Regex.Pattern :=
  [.rep (.symbol (alphanumericsAnd mailboxMarks)) 1 none, .symbol (.single '@')] ++ labelItems
    ++ [.star (.inRow (.symbol (.single '.') :: labelItems))]

/-- What `mailExpression` compiles to. -/
def mailRegex : Regex := .whole mailExpression mailItems

/-- An address of at most 254 bytes. -/
def email : Value → Outcome :=
  formatted (faultOf .email "Invalid email address") fun s =>
    s.utf8ByteSize ≤ 254 && mailRegex.isMatch s

/-! ## Hosts and resources -/

def url : Value → Outcome := formatted (faultOf .url "Invalid URL") Url.isUrl

def ip : Value → Outcome := formatted (faultOf .ip "Invalid IP address") Address.isAddress

/-- A scheme, a colon and two slashes come first. -/
def hasScheme (text : List Char) : Bool :=
  let scheme := text.takeWhile fun c => c != ':' && c != '/'
  !scheme.isEmpty && "://".toList.isPrefixOf (text.drop scheme.length)

def withoutSlashes (text : List Char) : List Char := Text.stripOf (· == '/') text

/-- A URL, or a path that makes one with a host before it. -/
def isResource (text : List Char) : Bool :=
  Url.isUrl <| String.ofList <|
    if hasScheme text then text else "http://check/".toList ++ withoutSlashes text

/-- A URL or path in a text or integer; one that is false or only slashes passes. -/
def uri (value : Value) : Outcome :=
  let text? := match value with
    | .str s => some s.toList
    | .int i => some (toString i.toInt).toList
    | _ => none
  let accepted := text?.any fun text =>
    !value.truthy || (withoutSlashes text).isEmpty || isResource text
  if accepted then .ok value
  else .fail value ((faultOf .uri "Invalid URI \"%s\"").withArgument value.display)

/-! ## Patterns -/

def regexp (patterns : List (Option Regex)) (value : Value) : Outcome :=
  let matched := value.text?.any fun s => patterns.any fun pattern => pattern.all (·.isMatch s)
  if matched then .ok value else .fail value (faultOf .regexp "Does not match the pattern")

def ospatterns (patterns : GlobSet) (value : Value) : Outcome :=
  if value.text?.any patterns.isMatch then .ok value
  else .fail value (faultOf .ospatterns "Does not match the shell pattern")

end Assay.Check
