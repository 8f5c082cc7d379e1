import Assay.Json.Reader

/-!
# JSON fields — the parts of a document as they are written

Whoever wants a few members of an object need not read the others.  Those are only passed over:
their form is checked, but not the size of their numbers, the code points that their strings
escape, nor how deep they are nested.  Members keep their order, and repeated names stay.

* `Json.fields?` gives the members of an object by name, each as the text of its value;
* `Json.elements?` gives the texts of the items of an array.
-/

namespace Assay.Json

/-- Passes over a string after its opening quote.  Each step passes a character or more. -/
def skipString? : Nat → List Char → Option (List Char)
  | 0, _ => none
  | _ + 1, [] => none
  | steps + 1, c :: rest =>
    if c = '"' then some rest
    else if c = '\\' then
      match rest with
      | 'u' :: rest => (readHex4? rest).bind fun (_, rest) => skipString? steps rest
      | e :: rest => if (escaped? e).isSome then skipString? steps rest else none
      | [] => none
    else if c < ' ' then none
    else skipString? steps rest

/-- Passes over digits, of which there must be one. -/
def skipDigits? (text : List Char) : Option (List Char) :=
  match text.dropWhile isAsciiDigit with
  | rest => if (text.takeWhile isAsciiDigit).isEmpty then none else some rest

def skipExponent? : List Char → Option (List Char)
  | [] => some []
  | c :: rest =>
    if c = 'e' ∨ c = 'E' then skipDigits? (Numeral.scanSign rest).2 else some (c :: rest)

def skipNumber? (text : List Char) : Option (List Char) := do
  let unsigned := match text with
    | '-' :: rest => rest
    | _ => text
  let rest ← match unsigned with
    | '0' :: c :: rest => if isAsciiDigit c then none else some (c :: rest)
    | _ => skipDigits? unsigned
  match rest with
  | '.' :: rest => (skipDigits? rest).bind skipExponent?
  | _ => skipExponent? rest

def skipWord? (word : String) (text : List Char) : Option (List Char) :=
  if word.toList.isPrefixOf text then some (text.drop word.length) else none

mutual

/-- Passes over a value.  Two steps are enough for each character. -/
def skipValue? : Nat → List Char → Option (List Char)
  | 0, _ => none
  | steps + 1, text =>
    match skipSpace text with
    | [] => none
    | '"' :: rest => skipString? (rest.length + 1) rest
    | '[' :: rest =>
      match skipSpace rest with
      | ']' :: rest => some rest
      | _ => skipItems? steps rest
    | '\x7b' :: rest =>
      match skipSpace rest with
      | '\x7d' :: rest => some rest
      | _ => skipMembers? steps rest
    | 'n' :: rest => skipWord? "null" ('n' :: rest)
    | 't' :: rest => skipWord? "true" ('t' :: rest)
    | 'f' :: rest => skipWord? "false" ('f' :: rest)
    | text => skipNumber? text

/-- Passes over the items of an array that is not empty, and its end. -/
def skipItems? : Nat → List Char → Option (List Char)
  | 0, _ => none
  | steps + 1, text =>
    match (skipValue? steps text).map skipSpace with
    | some (',' :: rest) => skipItems? steps rest
    | some (']' :: rest) => some rest
    | _ => none

def skipMembers? : Nat → List Char → Option (List Char)
  | 0, _ => none
  | steps + 1, text =>
    match skipSpace text with
    | '"' :: rest =>
      match (skipString? (rest.length + 1) rest).map skipSpace with
      | some (':' :: rest) =>
        match (skipValue? steps rest).map skipSpace with
        | some (',' :: rest) => skipMembers? steps rest
        | some ('\x7d' :: rest) => some rest
        | _ => none
      | _ => none
    | _ => none

end

def takeValue? (text : List Char) : Option (String × List Char) := do
  let text := skipSpace text
  let rest ← skipValue? (2 * text.length + 2) text
  some (String.ofList (text.take (text.length - rest.length)), skipSpace rest)

/-- Takes the items of an array that is not empty, and its end.  Each step takes an item. -/
def takeItems? : Nat → List Char → Option (List String × List Char)
  | 0, _ => none
  | steps + 1, text => do
    let (item, rest) ← takeValue? text
    match rest with
    | ',' :: rest =>
      let (items, rest) ← takeItems? steps rest
      some (item :: items, rest)
    | ']' :: rest => some ([item], rest)
    | _ => none

def takeMembers? : Nat → List Char → Option (List (String × String) × List Char)
  | 0, _ => none
  | steps + 1, text =>
    match skipSpace text with
    | '"' :: rest => do
      let (name, rest) ← readString? rest
      match skipSpace rest with
      | ':' :: rest =>
        let (member, rest) ← takeValue? rest
        match rest with
        | ',' :: rest =>
          let (members, rest) ← takeMembers? steps rest
          some ((name, member) :: members, rest)
        | '\x7d' :: rest => some ([(name, member)], rest)
        | _ => none
      | _ => none
    | _ => none

/-- What was taken, if nothing but blanks follows. -/
def complete? {α : Type} (taken : Option (α × List Char)) : Option α :=
  taken.bind fun (a, rest) => if (skipSpace rest).isEmpty then some a else none

/-- The texts of the items of a text that is an array. -/
def elements? (text : String) : Option (List String) :=
  match skipSpace text.toList with
  | '[' :: rest =>
    match skipSpace rest with
    | ']' :: rest => complete? (some ([], rest))
    | _ => complete? (takeItems? (rest.length + 1) rest)
  | _ => none

/-- The members of a text that is an object, by name, each as the text of its value. -/
def fields? (text : String) : Option (List (String × String)) :=
  match skipSpace text.toList with
  | '\x7b' :: rest =>
    match skipSpace rest with
    | '\x7d' :: rest => complete? (some ([], rest))
    | _ => complete? (takeMembers? (rest.length + 1) rest)
  | _ => none

end Assay.Json
