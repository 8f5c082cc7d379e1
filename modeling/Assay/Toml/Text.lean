import Assay.Toml.Scalar

/-!
# TOML texts — strings, comments and blanks

Strings come in four forms: between double quotes, where backslashes escape, or between single
quotes; and each on one line, or on several between three quotes.
-/

namespace Assay.Toml

def isSpace (c : Char) : Bool := c == ' ' || c == '\t'

def skipSpace (text : List Char) : List Char := text.dropWhile isSpace

/-- Control characters have no place in strings and comments.  A tab is none. -/
def isControl (c : Char) : Bool := (c < ' ' && c != '\t') || c == '\x7f'

def readNewline? : List Char → Option (List Char)
  | '\n' :: rest => some rest
  | '\r' :: '\n' :: rest => some rest
  | _ => none

def skipComment (text : List Char) : List Char :=
  match text with
  | '#' :: rest => rest.dropWhile fun c => !isControl c
  | _ => text

/-- Takes blanks, comments and line ends.  Each step takes a whole one of them. -/
def skipLines : Nat → List Char → List Char
  | 0, text => text
  | steps + 1, text =>
    let rest := skipComment (skipSpace text)
    match readNewline? rest with
    | some rest => skipLines steps rest
    | none => rest

def skipTrivia (text : List Char) : List Char := skipLines text.length text

/-! ## Strings -/

/-- The code point of hexadecimal digits, if it is a character. -/
def codePoint? (digits : List Char) : Option Char :=
  if digits.all (isDigitOf 16) then
    let code := valueIn 16 digits
    if code.isValidChar then some (Char.ofNat code) else none
  else none

/-- Takes so many hexadecimal digits as a character. -/
def readCodePoint? (count : Nat) (text : List Char) : Option (Char × List Char) := do
  let digits := text.take count
  if digits.length ≠ count then none
  else
    let c ← codePoint? digits
    some (c, text.drop count)

def readEscape? : List Char → Option (Char × List Char)
  | 'b' :: rest => some ('\x08', rest)
  | 't' :: rest => some ('\t', rest)
  | 'n' :: rest => some ('\n', rest)
  | 'f' :: rest => some ('\x0c', rest)
  | 'r' :: rest => some ('\r', rest)
  | 'e' :: rest => some ('\x1b', rest)
  | '"' :: rest => some ('"', rest)
  | '\\' :: rest => some ('\\', rest)
  | 'x' :: rest => readCodePoint? 2 rest
  | 'u' :: rest => readCodePoint? 4 rest
  | 'U' :: rest => readCodePoint? 8 rest
  | _ => none

/-- Takes a string on one line after its opening quote, given what came before in reverse.  Each
step takes a character or more. -/
def readLine? (quote : Char) : Nat → List Char → List Char → Option (String × List Char)
  | 0, _, _ => none
  | _ + 1, _, [] => none
  | steps + 1, done, c :: rest =>
    if c = quote then some (String.ofList done.reverse, rest)
    else if c = '\\' ∧ quote = '"' then do
      let (d, rest) ← readEscape? rest
      readLine? quote steps (d :: done) rest
    else if isControl c then none
    else readLine? quote steps (c :: done) rest

/-- Takes blanks and line ends after a backslash at the end of a line. -/
def skipFold? (text : List Char) : Option (List Char) := do
  let rest ← readNewline? (skipSpace text)
  some (rest.dropWhile fun c => isSpace c || c == '\n' || c == '\r')

/-- Takes a string on several lines after its opening quotes, given what came before in reverse.
Before the closing quotes there may be two more.  Each step takes a character or more. -/
def readBlock? (quote : Char) : Nat → List Char → List Char → Option (String × List Char)
  | 0, _, _ => none
  | _ + 1, _, [] => none
  | steps + 1, done, c :: rest =>
    if c = quote then
      let run := min 5 ((c :: rest).takeWhile (· == quote)).length
      if run < 3 then readBlock? quote steps (c :: done) rest
      else
        some (String.ofList (done.reverse ++ List.replicate (run - 3) quote), rest.drop (run - 1))
    else if c = '\\' ∧ quote = '"' then
      match skipFold? rest with
      | some rest => readBlock? quote steps done rest
      | none => do
        let (d, rest) ← readEscape? rest
        readBlock? quote steps (d :: done) rest
    else match readNewline? (c :: rest) with
      | some rest => readBlock? quote steps ('\n' :: done) rest
      | none => if isControl c then none else readBlock? quote steps (c :: done) rest

/-- Takes a string on several lines after its opening quotes.  A line end there does not count. -/
def readBlockString? (quote : Char) (text : List Char) : Option (String × List Char) :=
  let text := (readNewline? text).getD text
  readBlock? quote (text.length + 1) [] text

def readLineString? (quote : Char) (text : List Char) : Option (String × List Char) :=
  readLine? quote (text.length + 1) [] text

def readString? : List Char → Option (String × List Char)
  | '"' :: '"' :: '"' :: rest => readBlockString? '"' rest
  | '\'' :: '\'' :: '\'' :: rest => readBlockString? '\'' rest
  | '"' :: rest => readLineString? '"' rest
  | '\'' :: rest => readLineString? '\'' rest
  | _ => none

/-! ## Keys -/

def isKeyChar (c : Char) : Bool := c.isAlphanum || c == '_' || c == '-'

def readKey? : List Char → Option (String × List Char)
  | '"' :: rest => readLineString? '"' rest
  | '\'' :: rest => readLineString? '\'' rest
  | text =>
    let key := text.takeWhile isKeyChar
    if key.isEmpty then none else some (String.ofList key, text.dropWhile isKeyChar)

/-- Takes keys between dots.  Each step takes a key. -/
def readPathFrom? : Nat → List Char → Option (List String × List Char)
  | 0, _ => none
  | steps + 1, text => do
    let (key, rest) ← readKey? (skipSpace text)
    match skipSpace rest with
    | '.' :: rest => do
      let (path, rest) ← readPathFrom? steps rest
      some (key :: path, rest)
    | rest => some ([key], rest)

def readPath? (text : List Char) : Option (List String × List Char) :=
  readPathFrom? (text.length + 1) text

end Assay.Toml
