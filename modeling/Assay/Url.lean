import Assay.Address
import Assay.Text.Character
import Assay.Text.Word
import Assay.Url.Domain

/-!
# URLs — which texts are addresses of the web

A text is read as a scheme, an authority with a host, and the rest, by the rules of browsers.  Only
the parts that can make it malformed are looked at: the host, the port, and whether there is a host
at all.

* `Url.Host.parse?` reads hosts: names, numbers and addresses in brackets;
* `Url.isUrl` asks for a host, or for a scheme that needs none.
-/

namespace Assay.Url

inductive SchemeKind where
  | file
  | special
  | other
  deriving DecidableEq

def SchemeKind.of (scheme : String) : SchemeKind :=
  if scheme = "file" then .file
  else if ["http", "https", "ws", "wss", "ftp"].contains scheme then .special
  else .other

namespace SchemeKind

/-- Backslashes count as slashes. -/
def isSpecial (kind : SchemeKind) : Bool := kind != other

end SchemeKind

/-- A host, as far as it matters whether there is one. -/
inductive Host where
  | absent
  | present
  deriving DecidableEq

namespace Host

/-! ## Numbers -/

/-- A number of an address: decimal, octal after a zero, or hexadecimal.  The inner option is empty
when the number is too large. -/
def number? (text : List Char) : Option (Option Nat) :=
  let (base, digits) := match text with
    | '0' :: 'x' :: rest | '0' :: 'X' :: rest => (16, rest)
    | '0' :: c :: rest => (8, c :: rest)
    | _ => (10, text)
  let isDigit (c : Char) : Bool := (hexDigit? c).any (· < base)
  if text.isEmpty || !digits.all isDigit then none
  else
    let value := digits.foldl (fun n c => base * n + (hexDigit? c).getD 0) 0
    some (if value < 2 ^ 32 then some value else none)

def withoutFinal (labels : List (List Char)) : List (List Char) :=
  if labels.getLast?.any List.isEmpty then labels.dropLast else labels

/-- The last label is a number, so that the host must be an address. -/
def endsInNumber (labels : List (List Char)) : Bool :=
  match (withoutFinal labels).getLast? with
  | none => false
  | some last => (!last.isEmpty && last.all isAsciiDigit) || (number? last).isSome

/-- The labels are the numbers of an address: all but the last one byte, the last one the rest. -/
def isNumericAddress (labels : List (List Char)) : Bool :=
  let parts := withoutFinal labels
  match parts.mapM number? with
  | none => false
  | some numbers =>
    match numbers.mapM id with
    | none => false
    | some values =>
      values.length ≤ 4 && values.dropLast.all (· ≤ 255)
        && values.getLast?.any (· < 256 ^ (5 - values.length))

/-! ## Addresses in brackets -/

/-- Takes the numbers of a version 4 address that ends an address, so many still to come. -/
def readFinalBytes : Nat → List Char → Bool
  | 0, text => text.isEmpty
  | count + 1, text =>
    let digits := text.takeWhile isAsciiDigit
    let rest := text.drop digits.length
    if digits.isEmpty || (digits.length > 1 && digits.head? == some '0')
        || 255 < Numeral.digitsValue digits then false
    else if count = 0 then rest.isEmpty
    else match rest with
      | '.' :: rest => readFinalBytes count rest
      | _ => false

/-- Takes the pieces of a version 6 address, so many taken so far; `compressed` after two colons.
Each step takes a character. -/
def readPieces : Nat → Nat → Bool → List Char → Bool
  | 0, _, _, _ => false
  | _ + 1, taken, compressed, [] => compressed || taken == 8
  | steps + 1, taken, compressed, ':' :: rest =>
    if taken = 8 ∨ compressed then false else readPieces steps (taken + 1) true rest
  | steps + 1, taken, compressed, text =>
    if taken = 8 then false
    else
      let digits := (text.takeWhile isHexDigit).take 4
      match text.drop digits.length with
      | [] => if digits.isEmpty then false else compressed || taken + 1 == 8
      | '.' :: _ =>
        if digits.isEmpty ∨ 6 < taken then false
        else readFinalBytes 4 text && (compressed || taken + 2 == 8)
      | ':' :: rest =>
        if digits.isEmpty ∨ rest.isEmpty then false
        else readPieces steps (taken + 1) compressed rest
      | _ => false

/-- The text between brackets is a version 6 address. -/
def isBracketed (text : List Char) : Bool :=
  match text with
  | [] | [_] => false
  | ':' :: ':' :: rest => readPieces (text.length + 1) 1 true rest
  | ':' :: _ => false
  | _ => readPieces (text.length + 1) 0 false text

/-- What stands between brackets that begin here, if they are closed at the end. -/
def bracketed? (text : List Char) : Option (List Char) :=
  match text with
  | '[' :: rest => if rest.getLast? = some ']' then some rest.dropLast else none
  | _ => none

/-! ## Hosts -/

/-- Bytes with the escapes of a percent sign and two digits resolved. -/
def percentDecoded : List Nat → List Nat
  | a :: b :: c :: rest =>
    match hexDigit? (Char.ofNat b), hexDigit? (Char.ofNat c) with
    | some high, some low =>
      if a = '%'.toNat then (16 * high + low) :: percentDecoded rest
      else a :: percentDecoded (b :: c :: rest)
    | _, _ => a :: percentDecoded (b :: c :: rest)
  | short => short

def decoded? (text : List Char) : Option (List Char) :=
  let bytes := (String.ofList text).toUTF8.toList.map UInt8.toNat
  (String.fromUTF8? ⟨((percentDecoded bytes).map UInt8.ofNat).toArray⟩).map String.toList

/-- Reads the host of a special scheme: a name, or a numeric address. -/
def parseName? (text : List Char) : Option Host := do
  if text.head? = some '[' then
    let inside ← bracketed? text
    if isBracketed inside then some .present else none
  else
    let name ← decoded? text
    let labels ← Domain.labels? name
    if labels.all List.isEmpty && labels.length ≤ 1 then none
    else if endsInNumber labels && !isNumericAddress labels then none
    else some .present

def isInvalid (c : Char) : Bool := "\x00\t\n\r #/:<>?@[\\]^|".toList.contains c

/-- Reads the host of another scheme, which may be empty. -/
def parseOpaque? (text : List Char) : Option Host := do
  if text.head? = some '[' then
    let inside ← bracketed? text
    if isBracketed inside then some .present else none
  else if text.any isInvalid then none
  else if text.isEmpty then some .absent
  else some .present

def parse? (kind : SchemeKind) (text : List Char) : Option Host :=
  if kind.isSpecial then parseName? text else parseOpaque? text

end Host

def endsAuthority (kind : SchemeKind) (c : Char) : Bool :=
  c == '/' || c == '?' || c == '#' || (c == '\\' && kind.isSpecial)

/-- Takes the host: up to a colon outside brackets. -/
def takeHost : (inBrackets : Bool) → List Char → List Char
  | _, [] => []
  | inBrackets, c :: rest =>
    if c = ':' ∧ !inBrackets then []
    else c :: takeHost (if c = '[' then true else if c = ']' then false else inBrackets) rest

/-- The port is empty or at most 65535; a backslash ends it. -/
def portFits (text : List Char) : Bool :=
  let digits := text.takeWhile (· != '\\')
  digits.all isAsciiDigit && Numeral.digitsValue digits < 2 ^ 16

/-- What stands before the last at sign, and what stands after it. -/
def splitUserinfo (authority : List Char) : Option (List Char) × List Char :=
  let host := (authority.reverse.takeWhile (· != '@')).reverse
  if host.length = authority.length then (none, authority)
  else (some (authority.take (authority.length - host.length - 1)), host)

def namesUser (userinfo : List Char) : Bool := !userinfo.isEmpty && userinfo != [':']

/-- Reads an authority.  Where the host is empty there must be no port and no user. -/
def authority? (kind : SchemeKind) (text : List Char) : Option Host := do
  let authority := text.takeWhile fun c => !endsAuthority kind c
  let (userinfo, hostAndPort) := splitUserinfo authority
  if userinfo = some [] ∧ hostAndPort.isEmpty ∧ authority.length < text.length then none
  else
    let hostText := takeHost false hostAndPort
    let port := hostAndPort.drop hostText.length
    let host ← if hostText.isEmpty ∧ kind.isSpecial then none else Host.parse? kind hostText
    if host = .absent ∧ (!port.isEmpty ∨ userinfo.any namesUser) then none
    else if portFits (port.drop 1) then some host
    else none

def isDriveLetter (text : List Char) : Bool :=
  match text with
  | [letter, mark] => letter.isAlpha && (mark == ':' || mark == '|')
  | _ => false

def isSlash (c : Char) : Bool := c == '/' || c == '\\'

/-- The host of a file is absent, a drive, or well formed. -/
def fileFits (text : List Char) : Bool :=
  match text with
  | a :: b :: rest =>
    if isSlash a && isSlash b then
      let host := rest.takeWhile fun c => !endsAuthority .file c
      host.isEmpty || isDriveLetter host || (Host.parseName? host).isSome
    else true
  | _ => true

def scheme? (text : List Char) : Option (String × List Char) :=
  let scheme := text.takeWhile fun c => c.isAlphanum || c == '+' || c == '-' || c == '.'
  match text.drop scheme.length with
  | ':' :: rest =>
    if scheme.head?.any Char.isAlpha then some (String.ofList (scheme.map Char.toLower), rest)
    else none
  | _ => none

def needsNoHost (scheme : String) : Bool := ["mailto", "news", "file"].contains scheme

/-- What follows the scheme is well formed, and names a host where one is needed. -/
def restFits (scheme : String) (rest : List Char) : Bool :=
  let host? := match SchemeKind.of scheme with
    | .file => if fileFits rest then some Host.absent else none
    | .special => authority? .special (rest.dropWhile isSlash)
    | .other =>
      match rest with
      | '/' :: '/' :: rest => authority? .other rest
      | _ => some Host.absent
  match host? with
  | none => false
  | some host => host == .present || needsNoHost scheme

def isControl (c : Char) : Bool := c.toNat < 0x20 || (0x7F ≤ c.toNat && c.toNat < 0xA0)

/-- The text is a URL with a host, or with a scheme that needs none, and has no blanks. -/
def isUrl (text : String) : Bool :=
  let chars := text.toList
  !chars.any (fun c => Text.isBlank c || isControl c)
    && (scheme? chars).any fun (scheme, rest) => restFits scheme rest

end Assay.Url
