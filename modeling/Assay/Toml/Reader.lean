import Assay.Toml.Text

/-!
# TOML reader — documents from text

A document has one statement on a line.  Arrays and inline tables may go over several lines, and
may end with a comma; at most 80 of them are nested.
-/

namespace Assay.Toml

/-- How many arrays and inline tables may be nested. -/
def depthLimit : Nat := 80

mutual

/-- Takes a value, within so many containers.  Two steps are enough for each character. -/
def readValue? : Nat → Nat → List Char → Option (Toml × List Char)
  | 0, _, _ => none
  | steps + 1, depth, text =>
    match text with
    | [] => none
    | '[' :: rest =>
      match depth with
      | 0 => none
      | depth + 1 => do
        let (items, rest) ← readItems? steps depth rest
        some (.array items, rest)
    | '\x7b' :: rest =>
      match depth with
      | 0 => none
      | depth + 1 => do
        let (entries, rest) ← readEntries? steps depth [] rest
        some (.table .inline entries, rest)
    | c :: rest =>
      if c = '"' ∨ c = '\'' then do
        let (s, rest) ← readString? (c :: rest)
        some (.string s, rest)
      else
        let (word, rest) := takeWord (c :: rest)
        (ofWord? word).map (·, rest)

def readItems? : Nat → Nat → List Char → Option (List Toml × List Char)
  | 0, _, _ => none
  | steps + 1, depth, text =>
    match skipTrivia text with
    | ']' :: rest => some ([], rest)
    | text => do
      let (item, rest) ← readValue? steps depth text
      match skipTrivia rest with
      | ',' :: rest => do
        let (items, rest) ← readItems? steps depth rest
        some (item :: items, rest)
      | ']' :: rest => some ([item], rest)
      | _ => none

/-- Takes the entries of an inline table and its end, given the ones before. -/
def readEntries? : Nat → Nat → Table → List Char → Option (Table × List Char)
  | 0, _, _, _ => none
  | steps + 1, depth, entries, text =>
    match skipTrivia text with
    | '\x7d' :: rest => some (entries, rest)
    | text => do
      let (path, rest) ← readPath? text
      match rest with
      | '=' :: rest => do
        let (value, rest) ← readValue? steps depth (skipSpace rest)
        let entries ← assign value path entries
        match skipTrivia rest with
        | ',' :: rest => readEntries? steps depth entries rest
        | '\x7d' :: rest => some (entries, rest)
        | _ => none
      | _ => none

end

def readStatement? (text : List Char) : Option (Statement × List Char) :=
  match text with
  | '[' :: '[' :: rest => do
    let (path, rest) ← readPath? rest
    match rest with
    | ']' :: ']' :: rest => some (.elementHeader path, rest)
    | _ => none
  | '[' :: rest => do
    let (path, rest) ← readPath? rest
    match rest with
    | ']' :: rest => some (.header path, rest)
    | _ => none
  | _ => do
    let (path, rest) ← readPath? text
    match rest with
    | '=' :: rest => do
      let (value, rest) ← readValue? (2 * text.length + 2) depthLimit (skipSpace rest)
      some (.assignment path value, rest)
    | _ => none

/-- Takes the statements of a document, each up to the end of its line.  Each step takes one. -/
def readStatements? : Nat → List Char → Option (List Statement)
  | 0, _ => none
  | steps + 1, text =>
    match skipTrivia text with
    | [] => some []
    | text => do
      let (statement, rest) ← readStatement? text
      match skipComment (skipSpace rest) with
      | [] => some [statement]
      | rest => do
        let rest ← readNewline? rest
        let statements ← readStatements? steps rest
        some (statement :: statements)

/-- Reads a text that is a document.  A byte order mark before it does not count. -/
def parse? (text : String) : Option Table :=
  let text := match text.toList with
    | '\ufeff' :: rest => rest
    | text => text
  (readStatements? (text.length + 1) text).bind build

end Assay.Toml
