import Assay.Binary64
import Assay.Entries
import Assay.Toml.Moment

/-!
# TOML — documents and the rules of their tables

A document is a row of statements: assignments and headers, each with a path of keys.  Tables come
about in several ways, and how one did decides who may still add to it:

* `Toml.assign` adds a value at dotted keys, which reach only tables that dotted keys made;
* `Toml.openTable` and `Toml.openElement` follow a header, which reaches all tables but inline ones;
* `Toml.build` puts a document together from its statements.
-/

namespace Assay

inductive TableOrigin where
  /-- Written as a value. -/
  | inline
  /-- Lies on the path of a header. -/
  | implied
  /-- Lies on the path of an assignment. -/
  | dotted
  /-- Has a header of its own. -/
  | headed
  deriving DecidableEq

inductive Toml where
  | string (s : String)
  | integer (i : Int)
  | float (x : Binary64)
  | boolean (b : Bool)
  | moment (m : Moment)
  | array (items : List Toml)
  | table (origin : TableOrigin) (entries : List (String × Toml))
  /-- Tables that headers in double brackets made. -/
  | tables (elements : List (List (String × Toml)))

namespace Toml

abbrev Table := List (String × Toml)

/-- Assignments may go through a table, with keys left to follow inside it.  A table on the path of
a header may be passed, but nothing is put into it itself. -/
def admitsDotted (origin : TableOrigin) (path : List String) : Bool :=
  origin == .dotted || (origin == .implied && path.length != 1)

/-- Adds a value at a path of keys, where nothing may be yet. -/
def assign (value : Toml) : List String → Table → Option Table
  | [], _ => none
  | [key], entries =>
    if (entries.lookup key).isSome then none else some (entries ++ [(key, value)])
  | key :: path, entries =>
    match entries.lookup key with
    | none => do
      let inner ← assign value path []
      some (Entries.put key (.table .dotted inner) entries)
    | some (.table origin inner) =>
      if admitsDotted origin path then do
        let inner ← assign value path inner
        some (Entries.put key (.table origin inner) entries)
      else none
    | some _ => none

/-- Changes the entries of the table at a path of keys, as a header reaches it: of tables in double
brackets the last one. -/
def alterAt (change : Table → Option Table) : List String → Table → Option Table
  | [], entries => change entries
  | key :: path, entries =>
    match entries.lookup key with
    | none => do
      let inner ← alterAt change path []
      some (Entries.put key (.table .implied inner) entries)
    | some (.table origin inner) =>
      if origin = .inline then none
      else do
        let inner ← alterAt change path inner
        some (Entries.put key (.table origin inner) entries)
    | some (.tables elements) => do
      let inner ← alterAt change path (elements.getLastD [])
      some (Entries.put key (.tables (elements.dropLast ++ [inner])) entries)
    | some _ => none

def openTable (key : String) (entries : Table) : Option Table :=
  match entries.lookup key with
  | none => some (entries ++ [(key, .table .headed [])])
  | some (.table .implied inner) => some (Entries.put key (.table .headed inner) entries)
  | some _ => none

def openElement (key : String) (entries : Table) : Option Table :=
  match entries.lookup key with
  | none => some (entries ++ [(key, .tables [[]])])
  | some (.tables elements) => some (Entries.put key (.tables (elements ++ [[]])) entries)
  | some _ => none

inductive Statement where
  | assignment (path : List String) (value : Toml)
  | header (path : List String)
  | elementHeader (path : List String)

/-- A document under construction: what it holds, and the path of the last header. -/
structure Draft where
  entries : Table
  current : List String

/-- Opens the last key of a path in the table at the keys before it. -/
def Draft.openAt (draft : Draft) (opening : String → Table → Option Table)
    (path : List String) : Option Draft := do
  let key ← path.getLast?
  let entries ← alterAt (opening key) path.dropLast draft.entries
  some ⟨entries, path⟩

def Draft.extend (draft : Draft) : Statement → Option Draft
  | .assignment path value => do
    let entries ← alterAt (assign value path) draft.current draft.entries
    some { draft with entries := entries }
  | .header path => draft.openAt openTable path
  | .elementHeader path => draft.openAt openElement path

def build (statements : List Statement) : Option Table :=
  (statements.foldlM Draft.extend ⟨[], []⟩).map Draft.entries

end Toml

end Assay
