import Assay.Rule.Named

/-!
# Typed rules — one function for each filter and modifier

Constructors begin a rule, refiners add to it.
-/

namespace Assay.Rule

def ofFilter (filter : Filter Rule) : Rule := empty.withFilter filter

def bool : Rule := ofFilter .bool

def int : Rule := ofFilter .int

def double : Rule := ofFilter .double

def string : Rule := ofFilter .string

def scalar : Rule := ofFilter .scalar

def null : Rule := ofFilter .null

def values : Rule := ofFilter .values

def condition : Rule := ofFilter .condition

def object : Rule := ofFilter (.object none)

def objectOf (className : String) : Rule := ofFilter (.object (some className))

def entity : Rule := ofFilter (.entity none)

def entityWhere (condition : Value) : Rule := ofFilter (.entity (some condition))

/-- A container with rules for certain keys; of a repeated key the last rule counts. -/
def arrays (members : List (String × Rule)) : Rule :=
  ofFilter (.arrays ⟨Entries.ofPairs members, none, false⟩)

def arraysOf (others : Rule) : Rule := ofFilter (.arrays ⟨[], some others, false⟩)

def any (alternatives : List Rule) : Rule := ofFilter (.any alternatives)

/-- Changes the shape of the first filter that has one. -/
def changeShape? (change : Shape Rule → Shape Rule) :
    List (Filter Rule) → Option (List (Filter Rule))
  | [] => none
  | .arrays shape :: rest => some (.arrays (change shape) :: rest)
  | filter :: rest => (changeShape? change rest).map (filter :: ·)

/-- Changes the shape of a rule, which is empty if the rule has none. -/
def updateShape (rule : Rule) (change : Shape Rule → Shape Rule) : Rule :=
  match changeShape? change rule.filters with
  | some filters => { rule with filters := filters }
  | none => rule.withFilter (.arrays (change .empty))

/-- Gives all other members a rule. -/
def each (rule others : Rule) : Rule :=
  rule.updateShape fun shape => { shape with others := some others }

/-- Checks members that are containers by the rule itself. -/
def tree (rule : Rule) : Rule := rule.updateShape fun shape => { shape with tree := true }

def max (rule : Rule) (bound : Number) : Rule := rule.withFilter (.max bound)

def min (rule : Rule) (bound : Number) : Rule := rule.withFilter (.min bound)

def less (rule : Rule) (bound : Number) : Rule := rule.withFilter (.less bound)

def more (rule : Rule) (bound : Number) : Rule := rule.withFilter (.more bound)

def eq (rule : Rule) (target : Value) : Rule := rule.withFilter (.eq target false)

def eqStrict (rule : Rule) (target : Value) : Rule := rule.withFilter (.eq target true)

def not (rule : Rule) (target : Value) : Rule := rule.withFilter (.not target false)

def notStrict (rule : Rule) (target : Value) : Rule := rule.withFilter (.not target true)

def oneOf (rule : Rule) (allowed : List Value) : Rule := rule.withFilter (.oneOf allowed)

def noneOf (rule : Rule) (rejected : List Value) : Rule := rule.withFilter (.noneOf rejected)

def trim (rule : Rule) : Rule := rule.withFilter .trim

def escape (rule : Rule) : Rule := rule.withFilter (.escape false)

def escapeFull (rule : Rule) : Rule := rule.withFilter (.escape true)

def tagName (tag : String) : String :=
  Text.lower (String.ofList (Text.stripOf (fun c => c == '<' || c == '>' || c == '/') tag.toList))

/-- Keeps only the tags in the list. -/
def stripTags (rule : Rule) (allowed : List String) : Rule :=
  rule.withFilter (.stripTags (allowed.map tagName))

def email (rule : Rule) : Rule := rule.withFilter .email

def url (rule : Rule) : Rule := rule.withFilter .url

def ip (rule : Rule) : Rule := rule.withFilter .ip

def uri (rule : Rule) : Rule := rule.withFilter .uri

def regexp (rule : Rule) (patterns : List String) : Except RuleError Rule := do
  let patterns ← Named.compileRegexes patterns
  return rule.withFilter (.regexp patterns)

def ospatterns (rule : Rule) (patterns : List String) : Except RuleError Rule := do
  let patterns ← Named.readGlobs patterns
  return rule.withFilter (.ospatterns patterns)

def color (rule : Rule) : Rule := rule.withFilter .color

def lowercase (rule : Rule) : Rule := rule.withFilter .lowercase

def uppercase (rule : Rule) : Rule := rule.withFilter .uppercase

/-- A filter that hooks answer for. -/
def custom (rule : Rule) (name : String) (arguments : List Value) : Rule :=
  rule.withFilter (.custom name arguments)

def requiring (rule : Rule) : Rule := { rule with required := true }

def forbidding (rule : Rule) : Rule := { rule with forbidden := true }

def defaulting (rule : Rule) (value : Value) : Rule := { rule with default := some value }

end Assay.Rule
