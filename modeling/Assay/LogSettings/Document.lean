import Assay.Json.Fields
import Assay.LogSettings

/-!
# Log settings from documents

A JSON object may set any of the settings; names that are no settings do not count, but none may be
set twice.  An array sets them in order, and may stop early.
-/

namespace Assay

/-- The fields of a record of settings, in order. -/
abbrev FieldNames := List String

/-- The texts of the fields that a text sets: by name in an object, in order in an array. -/
def FieldNames.select? (names : FieldNames) (text : String) : Option (List (String × String)) :=
  match Json.fields? text with
  | some fields =>
    let known := fields.filter fun field => names.contains field.1
    if (known.map (·.1)).Nodup then some known else none
  | none => do
    let elements ← Json.elements? text
    if elements.length ≤ names.length then some (names.zip elements) else none

/-- The value of a field, or the one where none is set. -/
def readField? {α : Type} (fields : List (String × String)) (name : String) (standard : α)
    (read? : String → Option α) : Option α :=
  match fields.lookup name with
  | some text => read? text
  | none => some standard

namespace LogSettings

def readString? (text : String) : Option String :=
  match Json.parse? text with
  | some (.string s) => some s
  | _ => none

def readBool? (text : String) : Option Bool :=
  match Json.parse? text with
  | some (.bool b) => some b
  | _ => none

/-- Reads the name of a choice: a string, or an object with the name over null. -/
def readName? (text : String) : Option String :=
  match Json.fields? text with
  | some [(name, "null")] => some name
  | some _ => none
  | none => readString? text

def displayFields : FieldNames := ["time", "source", "target", "colors", "flatten"]

def readDisplay? (text : String) : Option LogDisplay := do
  let fields ← displayFields.select? text
  let time ← readField? fields "time" LogDisplay.standard.time readBool?
  let source ← readField? fields "source" none fun text => (readBool? text).map some
  let target ← readField? fields "target" LogDisplay.standard.target readBool?
  let colors ← readField? fields "colors" none fun text => (readBool? text).map some
  let flatten ← readField? fields "flatten" LogDisplay.standard.flatten readBool?
  some ⟨time, source, target, colors, flatten⟩

def settingFields : FieldNames := ["level", "format", "writer", "display"]

/-- The settings of a text, over the standard ones. -/
def ofDocument? (text : String) : Option LogSettings := do
  let fields ← settingFields.select? text
  let level ← readField? fields "level" standard.level readString?
  let format ← readField? fields "format" standard.format fun text =>
    (readName? text).bind LogFormat.ofName?
  let writer ← readField? fields "writer" standard.writer fun text =>
    (readName? text).bind LogWriter.ofName?
  let display ← readField? fields "display" standard.display readDisplay?
  some ⟨level, format, writer, display⟩

end LogSettings

end Assay
