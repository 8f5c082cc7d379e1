import Assay.Numeral

/-!
# Moments — dates and times of day

A moment is a date, a time of day, or both; a moment with both may say how far its clock is from
universal time.  Seconds may be left out.
-/

namespace Assay

structure Date where
  year : Nat
  month : Nat
  day : Nat
  deriving DecidableEq

/-- A time of day.  The second may be a leap second. -/
structure TimeOfDay where
  hour : Nat
  minute : Nat
  second : Nat
  /-- The digits of the fraction of the second. -/
  fraction : List Char
  deriving DecidableEq

structure Moment where
  date : Option Date
  time : Option TimeOfDay
  /-- Minutes ahead of universal time. -/
  offset : Option Int
  deriving DecidableEq

namespace Date

def isLeapYear (year : Nat) : Bool :=
  year % 4 == 0 && (year % 100 != 0 || year % 400 == 0)

def daysIn (year month : Nat) : Nat :=
  if month = 2 then (if isLeapYear year then 29 else 28)
  else if month = 4 ∨ month = 6 ∨ month = 9 ∨ month = 11 then 30
  else 31

def isValid (date : Date) : Bool :=
  1 ≤ date.month && date.month ≤ 12 && 1 ≤ date.day && date.day ≤ daysIn date.year date.month

end Date

def TimeOfDay.isValid (time : TimeOfDay) : Bool :=
  time.hour ≤ 23 && time.minute ≤ 59 && time.second ≤ 60

namespace Moment

def readDigits? (count : Nat) (text : List Char) : Option (Nat × List Char) :=
  let digits := text.take count
  if digits.length = count ∧ digits.all isAsciiDigit then
    some (Numeral.digitsValue digits, text.drop count)
  else none

def readChar? (c : Char) : List Char → Option (List Char)
  | d :: rest => if c = d then some rest else none
  | [] => none

def readDate? (text : List Char) : Option (Date × List Char) := do
  let (year, rest) ← readDigits? 4 text
  let rest ← readChar? '-' rest
  let (month, rest) ← readDigits? 2 rest
  let rest ← readChar? '-' rest
  let (day, rest) ← readDigits? 2 rest
  let date : Date := ⟨year, month, day⟩
  if date.isValid then some (date, rest) else none

/-- Takes the seconds of a time, if there are any. -/
def readSeconds? : List Char → Option (Nat × List Char × List Char)
  | ':' :: rest => do
    let (second, rest) ← readDigits? 2 rest
    match rest with
    | '.' :: rest =>
      let fraction := rest.takeWhile isAsciiDigit
      if fraction.isEmpty then none else some (second, fraction, rest.dropWhile isAsciiDigit)
    | _ => some (second, [], rest)
  | text => some (0, [], text)

def readTime? (text : List Char) : Option (TimeOfDay × List Char) := do
  let (hour, rest) ← readDigits? 2 text
  let rest ← readChar? ':' rest
  let (minute, rest) ← readDigits? 2 rest
  let (second, fraction, rest) ← readSeconds? rest
  let time : TimeOfDay := ⟨hour, minute, second, fraction⟩
  if time.isValid then some (time, rest) else none

/-- Reads hours and minutes of an offset, at most a day. -/
def offset? (negative : Bool) (text : List Char) : Option Int := do
  let (hours, rest) ← readDigits? 2 text
  let rest ← readChar? ':' rest
  let (minutes, rest) ← readDigits? 2 rest
  if rest.isEmpty && minutes ≤ 59 && hours * 60 + minutes ≤ 24 * 60 then
    some (Numeral.signed negative (hours * 60 + minutes))
  else none

/-- Reads what follows a date and a time: an offset or nothing. -/
def zone? : List Char → Option (Option Int)
  | [] => some none
  | ['Z'] | ['z'] => some (some 0)
  | '+' :: rest => (offset? false rest).map some
  | '-' :: rest => (offset? true rest).map some
  | _ => none

/-- Characters that may stand between a date and a time. -/
def isSeparator (c : Char) : Bool := c == 'T' || c == 't' || c == ' '

def afterDate? (date : Date) : List Char → Option Moment
  | [] => some ⟨some date, none, none⟩
  | c :: rest => do
    if !isSeparator c then none
    else
      let (time, rest) ← readTime? rest
      let zone ← zone? rest
      some ⟨some date, some time, zone⟩

def parse? (text : List Char) : Option Moment :=
  match readDate? text with
  | some (date, rest) => afterDate? date rest
  | none =>
    match readTime? text with
    | some (time, []) => some ⟨none, some time, none⟩
    | _ => none

end Moment

end Assay
