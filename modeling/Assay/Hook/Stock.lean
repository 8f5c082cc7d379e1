import Assay.Hook
import Assay.Text.Case

/-!
# Stock answers — hooks that a host can register as they are

Each is a function of the value, the arguments of the filter and the rule that it stands in, and
comes to nothing else.  No answer leaves the value to the next hook.
-/

namespace Assay.Hook

def decline : Answer := fun _ _ _ => none

def pass : Answer := fun value _ _ => some (.ok value)

def echo : Answer := fun value arguments _ => some (.ok (.list [value, .list arguments]))

/-- Twice an integer, if 64 bits hold it. -/
def double : Answer := fun value _ _ => do
  let i ← value.int?
  let product ← int64? (2 * i.toInt)
  some (.ok (.int product))

/-- A text after the text of the first argument. -/
def prepend : Answer := fun value arguments _ => do
  let head ← arguments.head?.bind Value.str?
  let tail ← value.str?
  some (.ok (.str (head ++ tail)))

/-- A text in lowercase with hyphens for blanks. -/
def slugOf (text : String) : String := "-".intercalate (Text.words (Text.lower text))

/-- Accepts texts that are their own slugs. -/
def slug : Answer := fun value _ _ => do
  let text ← value.str?
  let slug := slugOf text
  some <|
    if slug = text then .ok (.str slug) else .fail (.str slug) (.new "slug" "Not a slug")

/-- Refuses every value, which fills the message, and leaves another one in its place. -/
def refuse (substitute : Value) (code template : String) : Answer := fun value _ _ =>
  some (.fail substitute ((Fault.new code template).withArgument value.display))

def refuseSilently : Answer := fun value _ _ => some (.fail value .empty)

/-- Refuses every value by a fault two levels below it, which counts the arguments. -/
def refuseDeep : Answer := fun value arguments _ =>
  let fault := (Fault.new "deep" "Deep %s").withArgument (toString arguments.length)
  some (.fail value (Fault.alterAt (·.add fault) ["x", "y"] .empty))

/-- What the rule says of itself, in place of the value. -/
def describeRule : Answer := fun _ _ rule =>
  some <| .ok <| .map
    [("filters", .list (rule.filters.map fun filter => .str filter.name)),
      ("required", .bool rule.required),
      ("default", rule.default.getD (.str "none")),
      ("ignored", .list (rule.ignored.map .str))]

end Assay.Hook
