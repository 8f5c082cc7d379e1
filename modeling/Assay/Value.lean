import Assay.Json

/-!
# Values — untyped input

A value is what arrives before its shape is known, and what a check hands back.  Conversions are
loose: `"0"` is false, `true` is written `1`, a whole float is written without a fraction.

* `Value.member?`, `Value.count?` look into containers;
* `Value.truthy`, `Value.text?`, `Value.numeric?`, `Value.toInt64`, `Value.toBinary64` convert;
* `Value.ofJson` and `Value.toJson` pass to and from documents.
-/

namespace Assay

/-- An object of the host application: all that is known of it is its class and its parents. -/
structure HostObject where
  /-- Tells objects apart. -/
  serial : Nat
  className : String
  parents : List String
  deriving DecidableEq

namespace HostObject

/-- The object belongs to a class, its own or a parent. -/
def isInstanceOf (object : HostObject) (className : String) : Bool :=
  object.className == className || object.parents.contains className

end HostObject

/-- Who made an entity, and the serial number that its maker gave it. -/
inductive EntityOrigin where
  | literal (serial : Nat)
  | stored (serial : Nat)
  deriving DecidableEq

structure Entity where
  origin : EntityOrigin
  uri : String
  owner : String
  readable : Bool
  deriving DecidableEq

/-- Untyped input.  The entries of a map have distinct keys.  A `values` container has an identity
once somebody can hold it; one that a check has just made has none yet. -/
inductive Value where
  | null
  | bool (b : Bool)
  | int (i : Int64)
  | float (x : Binary64)
  | str (s : String)
  | list (items : List Value)
  | map (entries : List (String × Value))
  | object (object : HostObject)
  | entity (entity : Entity)
  | values (identity : Option Nat) (raw : Value)

instance : Inhabited Value := ⟨.null⟩

namespace Value

def typeName : Value → String
  | null => "null"
  | bool _ => "bool"
  | int _ => "int"
  | float _ => "float"
  | str _ => "string"
  | list _ => "list"
  | map _ => "map"
  | object _ => "object"
  | entity _ => "entity"
  | values .. => "values"

def isNull : Value → Bool
  | null => true
  | _ => false

/-- A truth value, number or text.  Null is none of them. -/
def isScalar : Value → Bool
  | bool _ | int _ | float _ | str _ => true
  | _ => false

def isNumber : Value → Bool
  | int _ | float _ => true
  | _ => false

def isContainer : Value → Bool
  | list _ | map _ => true
  | _ => false

def str? : Value → Option String
  | str s => some s
  | _ => none

def bool? : Value → Option Bool
  | bool b => some b
  | _ => none

def int? : Value → Option Int64
  | int i => some i
  | _ => none

def list? : Value → Option (List Value)
  | list items => some items
  | _ => none

def map? : Value → Option (List (String × Value))
  | map entries => some entries
  | _ => none

def number? : Value → Option Number
  | int i => some (.int i)
  | float x => some (.float x)
  | _ => none

def ofNumber : Number → Value
  | .int i => int i
  | .float x => float x

/-! ## Members -/

/-- What a `values` container holds.  Every other value stands for itself. -/
def contents : Value → Value
  | values _ raw => raw
  | other => other

/-- The index that a key of a list denotes: digits, with an optional plus. -/
def indexOfKey? (key : String) : Option Nat :=
  let digits := match key.toList with
    | '+' :: rest => rest
    | text => text
  if digits.isEmpty || !digits.all isAsciiDigit then none
  else
    let index := Numeral.digitsValue digits
    if index < 2 ^ 64 then some index else none

/-- The member at a key: of a list by its index, of a map by its name. -/
def member? : Value → String → Option Value
  | list items, key => (indexOfKey? key).bind (items[·]?)
  | map entries, key => entries.lookup key
  | values _ raw, key => raw.member? key
  | _, _ => none

def indexKeys (items : List Value) : List String :=
  (List.range items.length).map toString

def memberKeys : Value → List String
  | list items => indexKeys items
  | map entries => Entries.keys entries
  | _ => []

def count? : Value → Option Nat
  | list items => some items.length
  | map entries => some entries.length
  | _ => none

/-- Null, false, zero, the empty text, `"0"` and empty containers are false; all else is true. -/
def truthy : Value → Bool
  | null => false
  | bool b => b
  | int i => i != 0
  | float x => x.isNonzero
  | str s => !(s == "" || s == "0")
  | list items => !items.isEmpty
  | map entries => !entries.isEmpty
  | object _ | entity _ | values .. => true

/-! ## Conversions -/

def text? : Value → Option String
  | bool b => some (if b then "1" else "")
  | int i => some (toString i.toInt)
  | float x => some x.text
  | str s => some s
  | _ => none

/-- The number that a number or a numeral is. -/
def numeric? : Value → Option Number
  | int i => some (.int i)
  | float x => some (.float x)
  | str s => Number.parse? s
  | _ => none

/-- An integer for any value: of a text its leading number, of a float its whole part, one for a
container that is not empty. -/
def toInt64 : Value → Int64
  | null => 0
  | bool b => if b then 1 else 0
  | int i => i
  | float x => x.toInt64
  | str s =>
    match Number.leading? s with
    | some (.int i) => i
    | some (.float x) => x.toInt64
    | none => 0
  | list items => if items.isEmpty then 0 else 1
  | map entries => if entries.isEmpty then 0 else 1
  | object _ | entity _ | values .. => 1

/-- A float for any value, by the same rules. -/
def toBinary64 : Value → Binary64
  | float x => x
  | str s => (Number.leading? s).elim .zero Number.toBinary64
  | value => .ofInt value.toInt64.toInt

/-! ## Documents -/

mutual

/-- The document of a value: objects are their classes, entities their URIs, and floats without
digits are null. -/
def toJson : Value → Json
  | null => .null
  | bool b => .bool b
  | int i => .number (.int i)
  | float x => if x.isFinite then .number (.float x) else .null
  | str s => .string s
  | list items => .array (itemsToJson items)
  | map entries => .object (Entries.sortedOfPairs (entriesToJson entries))
  | object o => .string o.className
  | entity e => .string e.uri
  | values _ raw => raw.toJson
  termination_by structural value => value

def itemsToJson : List Value → List Json
  | [] => []
  | item :: rest => item.toJson :: itemsToJson rest
  termination_by structural items => items

def entriesToJson : List (String × Value) → List (String × Json)
  | [] => []
  | (key, value) :: rest => (key, value.toJson) :: entriesToJson rest
  termination_by structural entries => entries

end

mutual

def ofJson : Json → Value
  | .null => null
  | .bool b => bool b
  | .number n => ofNumber n
  | .string s => str s
  | .array items => list (itemsOfJson items)
  | .object members => map (entriesOfJson members)
  termination_by structural document => document

def itemsOfJson : List Json → List Value
  | [] => []
  | item :: rest => ofJson item :: itemsOfJson rest
  termination_by structural items => items

def entriesOfJson : List (String × Json) → List (String × Value)
  | [] => []
  | (name, member) :: rest => (name, ofJson member) :: entriesOfJson rest
  termination_by structural members => members

end

/-- The text of any value: of a scalar its own, of all else that of its document. -/
def display (value : Value) : String :=
  value.text?.getD value.toJson.text

end Value

end Assay
