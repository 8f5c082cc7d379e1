import Assay.Json

/-!
# Faults — trees of validation errors

A fault says why a value was refused.  A node may carry a code, a message and children, which are
keyed like the members of the container that was looked at.  A node that carries nothing, nor has
a descendant that does, does not exist: it is a placeholder.

* `Fault.add` merges trees, the first code and message winning;
* `Fault.leaves` lists the existing nodes without existing children by their paths;
* `Fault.display` and `Fault.toJson` are its two texts.
-/

namespace Assay

/-- A text with `%s` placeholders, and what fills them in turn. -/
structure Message where
  template : String
  arguments : List String
  deriving DecidableEq

namespace Message

/-- Fills placeholders from the left.  Missing arguments are empty, surplus ones are left out, and
an argument is not looked into. -/
def fill : List Char → List String → List Char
  | '%' :: 's' :: rest, [] => fill rest []
  | '%' :: 's' :: rest, argument :: arguments => argument.toList ++ fill rest arguments
  | c :: rest, arguments => c :: fill rest arguments
  | [], _ => []

def render (message : Message) : String :=
  String.ofList (fill message.template.toList message.arguments)

end Message

/-- A tree of validation errors.  The children of a node have distinct keys. -/
structure Fault where
  code : Option String
  message : Option Message
  children : List (String × Fault)

namespace Fault

/-- The placeholder. -/
def empty : Fault := ⟨none, none, []⟩

instance : Inhabited Fault := ⟨empty⟩

def new (code template : String) : Fault := ⟨some code, some ⟨template, []⟩, []⟩

/-- Adds an argument to the message, if there is one. -/
def withArgument (fault : Fault) (argument : String) : Fault :=
  { fault with
    message := fault.message.map fun m => { m with arguments := m.arguments ++ [argument] } }

def messageText? (fault : Fault) : Option String := fault.message.map Message.render

def child? (fault : Fault) (key : String) : Option Fault := fault.children.lookup key

def follow? (fault : Fault) : List String → Option Fault
  | [] => some fault
  | key :: path => (fault.child? key).bind (·.follow? path)

/-- The keys of a path, which dots divide; empty ones do not count. -/
def pathKeys (path : String) : List String :=
  ((path.toList.splitOn '.').filter (!·.isEmpty)).map String.ofList

def find? (fault : Fault) (path : String) : Option Fault := fault.follow? (pathKeys path)

/-- Changes the node at a list of keys, where placeholders fill what is missing. -/
def alterAt (change : Fault → Fault) : List String → Fault → Fault
  | [], fault => change fault
  | key :: path, fault =>
    { fault with children := Entries.alter key empty (alterAt change path) fault.children }

/-- Puts placeholders where a list of keys leads. -/
def reach (path : List String) (fault : Fault) : Fault := alterAt id path fault

mutual

/-- Merges a second tree into the first.  Its code and message are taken where the first has
neither; children merge by key. -/
def add (fault : Fault) (other : Fault) : Fault :=
  match other with
  | ⟨code, message, children⟩ =>
    let bare := fault.code.isNone && fault.message.isNone
    ⟨if bare then code else fault.code, if bare then message else fault.message,
      addChildren fault.children children⟩
  termination_by structural other

def addChildren (mine : List (String × Fault)) : List (String × Fault) → List (String × Fault)
  | [] => mine
  | (key, child) :: rest => addChildren (Entries.alter key empty (fun f => f.add child) mine) rest
  termination_by structural children => children

end

mutual

/-- The node or a descendant carries a code or a message. -/
def isPresent : Fault → Bool
  | ⟨code, message, children⟩ => code.isSome || message.isSome || anyPresent children
  termination_by structural fault => fault

def anyPresent : List (String × Fault) → Bool
  | [] => false
  | (_, child) :: rest => child.isPresent || anyPresent rest
  termination_by structural children => children

end

mutual

/-- The same tree; the order of children does not count. -/
def same : Fault → Fault → Bool
  | ⟨code, message, children⟩, other =>
    code == other.code && message == other.message
      && children.length == other.children.length && sameChildren children other.children
  termination_by structural fault => fault

def sameChildren : List (String × Fault) → List (String × Fault) → Bool
  | [], _ => true
  | (key, child) :: rest, others =>
    (match others.lookup key with
      | some other => child.same other
      | none => false) && sameChildren rest others
  termination_by structural children => children

end

/-! ## Texts -/

def childPath (path key : String) : String := if path = "" then key else path ++ "." ++ key

mutual

/-- The present nodes below a path that have no present child, in order. -/
def leavesFrom (path : String) (fault : Fault) : List (String × Fault) :=
  match fault with
  | ⟨code, message, children⟩ =>
    if anyPresent children then childLeaves path children
    else if code.isSome || message.isSome then [(path, ⟨code, message, children⟩)]
    else []
  termination_by structural fault

def childLeaves (path : String) : List (String × Fault) → List (String × Fault)
  | [] => []
  | (key, child) :: rest =>
    (if child.isPresent then child.leavesFrom (childPath path key) else []) ++ childLeaves path rest
  termination_by structural children => children

end

/-- The present nodes without present children; the root has the empty path. -/
def leaves (fault : Fault) : List (String × Fault) := fault.leavesFrom ""

mutual

/-- The tree as a document.  Parts that are missing and children that are not present are left
out. -/
def toJson : Fault → Json
  | ⟨code, message, children⟩ =>
    let below := childrenToJson children
    .object <| Entries.sortedOfPairs <|
      (code.elim [] fun code => [("code", .string code)])
        ++ (message.elim [] fun message => [("message", .string message.render)])
        ++ (if below.isEmpty then [] else [("children", .object (Entries.sortedOfPairs below))])
  termination_by structural fault => fault

def childrenToJson : List (String × Fault) → List (String × Json)
  | [] => []
  | (key, child) :: rest =>
    (if child.isPresent then [(key, child.toJson)] else []) ++ childrenToJson rest
  termination_by structural children => children

end

/-- What is said of the node itself. -/
def headline (fault : Fault) : String :=
  match fault.code, fault.messageText? with
  | some code, some message => code ++ ": " ++ message
  | some code, none => code
  | none, some message => message
  | none, none => "invalid value"

/-- The headline, and in parentheses the leaves below the root by path and code. -/
def display (fault : Fault) : String :=
  let nested := fault.leaves.filter fun leaf => leaf.1 != ""
  let listed := nested.map fun leaf => leaf.1 ++ ": " ++ leaf.2.code.getD "invalid"
  fault.headline ++ if nested.isEmpty then "" else " (" ++ ", ".intercalate listed ++ ")"

end Fault

end Assay
