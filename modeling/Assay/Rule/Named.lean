import Assay.Rule
import Assay.Rule.Error
import Assay.Text.Case

/-!
# Rules by name — filters from names and untyped arguments

`Rule.addFilter` adds the filter or sets the modifier with a name.  Names that have no meaning of
their own make filters for hooks.  The arguments are checked here, so that a rule that was made
can be applied.
-/

namespace Assay

inductive Argument where
  | value (value : Value)
  | rule (rule : Rule)
  | rules (rules : List Rule)
  | keyed (members : List (String × Rule))

namespace Argument

def kind : Argument → String
  | value v => v.typeName
  | rule _ => "rule"
  | rules _ => "rule list"
  | keyed _ => "keyed rules"

end Argument

namespace Named

/-- The arguments as values, if all are. -/
def plainValues (name : String) (arguments : List Argument) : Except RuleError (List Value) :=
  arguments.mapM fun
    | .value v => .ok v
    | other => .error (.invalidArgument name (.notAValue other.kind))

/-- A single list stands for its items. -/
def spread : List Value → List Value
  | [.list items] => items
  | values => values

def expectCount {α : Type} (name : String) (arity : Arity) (arguments : List α) :
    Except RuleError Unit :=
  if arity.admits arguments.length then .ok ()
  else .error (.argumentCount name arity arguments.length)

def bare (name : String) (arguments : List Argument) (filter : Filter Rule) :
    Except RuleError (Filter Rule) := do
  expectCount name .none arguments
  return filter

/-- Values of which a certain number is taken. -/
def counted (name : String) (arity : Arity) (arguments : List Argument) :
    Except RuleError (List Value) := do
  let values ← plainValues name arguments
  expectCount name arity values
  return values

/-- The one argument of a bound, as a number. -/
def bound (name : String) (arguments : List Argument) : Except RuleError Number := do
  let values ← counted name .one arguments
  let value := values.headD .null
  match value.numeric? with
  | some n => return n
  | none => .error (.invalidArgument name (.boundNotNumeric value.typeName))

def patternTexts (name : String) (arguments : List Argument) : Except RuleError (List String) := do
  let values ← plainValues name arguments
  (spread values).mapM fun value =>
    match value.text? with
    | some text => .ok text
    | none => .error (.invalidArgument name (.patternNotText value.typeName))

/-- Characters that stand between the names of tags. -/
def isTagSeparator (c : Char) : Bool :=
  c == '<' || c == '>' || c == '/' || c == ',' || Text.isBlank c

/-- The names of tags in a list such as `<b><i>` or `b, i`. -/
def tagNames (text : String) : List String :=
  ((text.toList.splitOnP isTagSeparator).filter (!·.isEmpty)).map fun name =>
    Text.lower (String.ofList name)

def allowedTags (name : String) (values : List Value) : Except RuleError (List String) := do
  let tags ← (spread values).mapM fun
    | .str s => .ok (tagNames s)
    | _ => .error (.invalidArgument name .tagNotText)
  return tags.flatten

/-- Compiles expressions; an empty one is none. -/
def compileRegexes (patterns : List String) : Except RuleError (List (Option Regex)) :=
  patterns.mapM fun pattern =>
    if pattern = "" then .ok none
    else match Regex.compile? pattern with
      | some regex => .ok (some regex)
      | none => .error (.invalidRegex pattern)

def readGlobs (patterns : List String) : Except RuleError GlobSet := do
  let globs ← patterns.mapM fun pattern =>
    match Glob.parse pattern with
    | .ok glob => .ok glob
    | .error cause => .error (.invalidGlob pattern cause)
  return ⟨globs⟩

def alternatives (name : String) (arguments : List Argument) : Except RuleError (List Rule) := do
  let rules ← arguments.mapM fun
    | .rule r => .ok [r]
    | .rules rs => .ok rs
    | other => .error (.invalidArgument name (.notARule other.kind))
  return rules.flatten

/-- The shape that arguments describe: keyed rules, a rule for all other keys, perhaps by the name
of its only filter, and a truth value for trees.  The last of each sort counts. -/
def shape (named : String → Except RuleError Rule) (name : String) (arguments : List Argument) :
    Except RuleError (Shape Rule) :=
  arguments.foldlM (fun shape argument =>
    match argument with
    | .keyed members => .ok { shape with members := members }
    | .rule others => .ok { shape with others := some others }
    | .value (.str kind) => do
      let others ← named kind
      return { shape with others := some others }
    | .value (.bool tree) => .ok { shape with tree := tree }
    | other => .error (.invalidArgument name (.unexpected other.kind))) Shape.empty

/-- The filter of a kind with arguments, given the rules that names without arguments make. -/
def filterOfKind (named : String → Except RuleError Rule) (kind : Kind)
    (arguments : List Argument) : Except RuleError (Filter Rule) :=
  let name := kind.name
  match kind with
  | .bool => bare name arguments .bool
  | .int => bare name arguments .int
  | .double => bare name arguments .double
  | .string => bare name arguments .string
  | .scalar => bare name arguments .scalar
  | .null => bare name arguments .null
  | .values => bare name arguments .values
  | .trim => bare name arguments .trim
  | .email => bare name arguments .email
  | .url => bare name arguments .url
  | .ip => bare name arguments .ip
  | .uri => bare name arguments .uri
  | .color => bare name arguments .color
  | .lowercase => bare name arguments .lowercase
  | .uppercase => bare name arguments .uppercase
  | .condition => bare name arguments .condition
  | .arrays => do
    let shape ← shape named name arguments
    return .arrays shape
  | .object => do
    match ← counted name .atMostOne arguments with
    | [] | [.null] => return .object none
    | [.str className] => return .object (some className)
    | other :: _ => .error (.invalidArgument name (.classNotText other.typeName))
  | .entity => do
    match ← counted name .atMostOne arguments with
    | [] | [.null] => return .entity none
    | condition :: _ => return .entity (some condition)
  | .any => do
    let rules ← alternatives name arguments
    return .any rules
  | .max => do
    let n ← bound name arguments
    return .max n
  | .min => do
    let n ← bound name arguments
    return .min n
  | .less => do
    let n ← bound name arguments
    return .less n
  | .more => do
    let n ← bound name arguments
    return .more n
  | .eq => do
    let values ← counted name .oneOrTwo arguments
    return .eq (values.headD .null) ((values.drop 1).headD .null).truthy
  | .not => do
    let values ← counted name .oneOrTwo arguments
    return .not (values.headD .null) ((values.drop 1).headD .null).truthy
  | .oneOf => do
    let values ← plainValues name arguments
    return .oneOf (spread values)
  | .noneOf => do
    let values ← plainValues name arguments
    return .noneOf (spread values)
  | .escape => do
    let values ← counted name .atMostOne arguments
    return .escape (values.headD .null).truthy
  | .stripTags => do
    let values ← plainValues name arguments
    let tags ← allowedTags name values
    return .stripTags tags
  | .regexp => do
    let texts ← patternTexts name arguments
    let patterns ← compileRegexes texts
    return .regexp patterns
  | .ospatterns => do
    let texts ← patternTexts name arguments
    let patterns ← readGlobs texts
    return .ospatterns patterns

def filter (named : String → Except RuleError Rule) (name : String) (arguments : List Argument) :
    Except RuleError (Filter Rule) :=
  match Kind.ofName? name with
  | some kind => filterOfKind named kind arguments
  | none => do
    let values ← plainValues name arguments
    return .custom name values

/-- The truth value of a modifier, which is true without an argument. -/
def flag (name : String) (arguments : List Argument) : Except RuleError Bool := do
  let values ← counted name .atMostOne arguments
  return values.head?.all Value.truthy

def codes (name : String) (arguments : List Argument) : Except RuleError (List String) := do
  let values ← plainValues name arguments
  (spread values).mapM fun value =>
    match value.text? with
    | some code => .ok code
    | none => .error (.invalidArgument name .codeNotText)

/-- Adds what a name and arguments stand for, given the rules that names without arguments make. -/
def add (named : String → Except RuleError Rule) (rule : Rule) (name : String)
    (arguments : List Argument) : Except RuleError Rule :=
  match name with
  | "required" => do
    let required ← flag name arguments
    return { rule with required := required }
  | "forbidden" => do
    let forbidden ← flag name arguments
    return { rule with forbidden := forbidden }
  | "default" => do
    let values ← counted name .one arguments
    return { rule with default := values.head? }
  | "ignore" => do
    let codes ← codes name arguments
    return rule.ignoring codes
  | _ => do
    let filter ← filter named name arguments
    return rule.withFilter filter

/-- The rule that a name alone makes.  Without arguments no other name is asked for. -/
def alone (name : String) : Except RuleError Rule :=
  add (fun _ => .ok .empty) .empty name []

end Named

/-- Adds the filter or sets the modifier with a name. -/
def Rule.addFilter (rule : Rule) (name : String) (arguments : List Argument) :
    Except RuleError Rule :=
  Named.add Named.alone rule name arguments

end Assay
