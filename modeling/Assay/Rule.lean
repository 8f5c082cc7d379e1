import Assay.Pattern.Glob
import Assay.Pattern.Regex
import Assay.Value

/-!
# Rules — descriptions of accepted values

A rule is a list of filters, applied in order, and a few modifiers.  The filters of a rule have
distinct names: adding a filter whose name is there replaces it in its place.  Codes that a rule
ignores are listed once.

* `Rule.withFilter` adds a filter, `Rule.merge` joins two rules;
* `Kind` lists the names that have a meaning of their own; all others belong to hooks.
-/

namespace Assay

/-- What the members of a container are checked by. -/
structure Shape (ρ : Type) where
  /-- Rules for certain keys. -/
  members : List (String × ρ)
  /-- The rule for all other keys. -/
  others : Option ρ
  /-- Members that are containers are checked by the whole rule again, where no other rule accepts
  them. -/
  tree : Bool

def Shape.empty {ρ : Type} : Shape ρ := ⟨[], none, false⟩

/-- The filters with a meaning of their own. -/
inductive Kind where
  | bool
  | int
  | double
  | string
  | scalar
  | null
  | arrays
  | object
  | values
  | entity
  | any
  | max
  | min
  | less
  | more
  | eq
  | not
  | oneOf
  | noneOf
  | trim
  | escape
  | stripTags
  | email
  | url
  | ip
  | uri
  | regexp
  | ospatterns
  | color
  | lowercase
  | uppercase
  | condition
  deriving DecidableEq

namespace Kind

/-- All kinds in the order in which they are listed. -/
def all : List Kind :=
  [bool, int, double, string, scalar, null, arrays, object, values, entity, any, max, min, less,
    more, eq, not, oneOf, noneOf, trim, escape, stripTags, email, url, ip, uri, regexp, ospatterns,
    color, lowercase, uppercase, condition]

/-- The name of a filter, which is also the code of its fault. -/
def name : Kind → String
  | bool => "bool"
  | int => "int"
  | double => "double"
  | string => "string"
  | scalar => "scalar"
  | null => "null"
  | arrays => "arrays"
  | object => "object"
  | values => "values"
  | entity => "entity"
  | any => "any"
  | max => "max"
  | min => "min"
  | less => "less"
  | more => "more"
  | eq => "eq"
  | not => "not"
  | oneOf => "in"
  | noneOf => "not_in"
  | trim => "trim"
  | escape => "escape"
  | stripTags => "strip_tags"
  | email => "email"
  | url => "url"
  | ip => "ip"
  | uri => "uri"
  | regexp => "regexp"
  | ospatterns => "ospatterns"
  | color => "color"
  | lowercase => "lowercase"
  | uppercase => "uppercase"
  | condition => "condition"

def ofName? (name : String) : Option Kind := all.find? fun kind => kind.name == name

end Kind

/-- One step of a rule, over the rules `ρ` that it may hold. -/
inductive Filter (ρ : Type) where
  | bool
  | int
  | double
  | string
  | scalar
  | null
  | arrays (shape : Shape ρ)
  | object (className : Option String)
  | values
  | entity (condition : Option Value)
  | any (alternatives : List ρ)
  | max (bound : Number)
  | min (bound : Number)
  | less (bound : Number)
  | more (bound : Number)
  | eq (target : Value) (strict : Bool)
  | not (target : Value) (strict : Bool)
  | oneOf (allowed : List Value)
  | noneOf (rejected : List Value)
  | trim
  | escape (full : Bool)
  | stripTags (allowed : List String)
  | email
  | url
  | ip
  | uri
  /-- An empty expression is none and matches everything. -/
  | regexp (patterns : List (Option Regex))
  | ospatterns (patterns : GlobSet)
  | color
  | lowercase
  | uppercase
  | condition
  /-- A filter that hooks answer for. -/
  | custom (name : String) (arguments : List Value)

namespace Filter

variable {ρ : Type}

/-- The kind of a filter that has a meaning of its own. -/
def kind? : Filter ρ → Option Kind
  | bool => some .bool
  | int => some .int
  | double => some .double
  | string => some .string
  | scalar => some .scalar
  | null => some .null
  | arrays _ => some .arrays
  | object _ => some .object
  | values => some .values
  | entity _ => some .entity
  | any _ => some .any
  | max _ => some .max
  | min _ => some .min
  | less _ => some .less
  | more _ => some .more
  | eq .. => some .eq
  | not .. => some .not
  | oneOf _ => some .oneOf
  | noneOf _ => some .noneOf
  | trim => some .trim
  | escape _ => some .escape
  | stripTags _ => some .stripTags
  | email => some .email
  | url => some .url
  | ip => some .ip
  | uri => some .uri
  | regexp _ => some .regexp
  | ospatterns _ => some .ospatterns
  | color => some .color
  | lowercase => some .lowercase
  | uppercase => some .uppercase
  | condition => some .condition
  | custom .. => none

def name : Filter ρ → String
  | custom name _ => name
  | filter => filter.kind?.elim "" Kind.name

end Filter

/-- A description of accepted values. -/
structure Rule where
  filters : List (Filter Rule)
  /-- The member must be there. -/
  required : Bool
  /-- The member must not be there. -/
  forbidden : Bool
  /-- What takes the place of a value with a fault. -/
  default : Option Value
  /-- Codes of faults that are dropped. -/
  ignored : List String

namespace Rule

/-- The rule that accepts everything as it is. -/
def empty : Rule := ⟨[], false, false, none, []⟩

instance : Inhabited Rule := ⟨empty⟩

/-- Faults with this code are dropped. -/
def ignores (rule : Rule) (code : String) : Bool := rule.ignored.contains code

def filter? (rule : Rule) (name : String) : Option (Filter Rule) :=
  rule.filters.find? fun filter => filter.name == name

/-- Puts a filter in the place of the one with its name, or at the end. -/
def putFilter (filter : Filter Rule) : List (Filter Rule) → List (Filter Rule)
  | [] => [filter]
  | other :: rest =>
    if other.name = filter.name then filter :: rest else other :: putFilter filter rest

def withFilter (rule : Rule) (filter : Filter Rule) : Rule :=
  { rule with filters := putFilter filter rule.filters }

/-- Adds a code to a list that has each code once. -/
def putCode (ignored : List String) (code : String) : List String :=
  if ignored.contains code then ignored else ignored ++ [code]

def ignoring (rule : Rule) (codes : List String) : Rule :=
  { rule with ignored := codes.foldl putCode rule.ignored }

/-- Adds a second rule: its filters replace those of the same names, either rule can require or
forbid, and its default and ignored codes win where it has any. -/
def merge (rule other : Rule) : Rule where
  filters := other.filters.foldl (fun filters filter => putFilter filter filters) rule.filters
  required := rule.required || other.required
  forbidden := rule.forbidden || other.forbidden
  default := other.default.or rule.default
  ignored := if other.ignored.isEmpty then rule.ignored else other.ignored

end Rule

end Assay
