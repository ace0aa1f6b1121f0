import ModemRelay.Toml.Time

/-! Values of a TOML document, and how its statements put tables together.

A table remembers how it came to be, for that decides who may add to it: a table opened by a header
is opened once, a table that only lies on the way to others may still be opened, a table made by
dotted keys grows by dotted keys of the same section, and an inline table is complete where it
stands. -/

namespace ModemRelay.Toml

/-- How a table came to be. -/
inductive Origin where
  /-- Opened by a header. -/
  | header
  /-- On the way to a table opened by a header. -/
  | implicit
  /-- Made by a dotted key. -/
  | dotted
  /-- Written between braces. -/
  | inline
  deriving DecidableEq

/-- A value. Fractions keep their written form. -/
inductive Value where
  | string (s : String)
  | integer (n : Int)
  | float (literal : String)
  | boolean (b : Bool)
  | time (t : Time)
  | array (items : List Value)
  | table (origin : Origin) (entries : List (String × Value))
  /-- An array whose elements are opened by headers, the latest first. -/
  | tables (elements : List (List (String × Value)))

/-- The entries of a table, each name once. -/
abbrev Entries := List (String × Value)

namespace Entries

/-- Changes the value of a name. -/
def set (entries : Entries) (name : String) (value : Value) : Entries :=
  entries.map fun (n, v) => if n = name then (n, value) else (n, v)

def add (entries : Entries) (name : String) (value : Value) : Entries :=
  entries ++ [(name, value)]

/-- Follows a path of names through tables, making those that are missing, and changes the table at
its end. An array of tables is entered at its latest element. -/
def descend (change : Entries → Option Entries) : List String → Entries → Option Entries
  | [], entries => change entries
  | name :: rest, entries =>
    match entries.lookup name with
    | none => (descend change rest []).map fun sub => entries.add name (.table .implicit sub)
    | some (.table .inline _) => none
    | some (.table origin sub) =>
      (descend change rest sub).map fun sub => entries.set name (.table origin sub)
    | some (.tables (latest :: older)) =>
      (descend change rest latest).map fun sub => entries.set name (.tables (sub :: older))
    | some _ => none

/-- Opens the table of this name, unless it has been opened or made otherwise. -/
def openTable (name : String) (entries : Entries) : Option Entries :=
  match entries.lookup name with
  | none => some (entries.add name (.table .header []))
  | some (.table .implicit sub) => some (entries.set name (.table .header sub))
  | some _ => none

/-- Opens one more element of the array of tables of this name. -/
def openElement (name : String) (entries : Entries) : Option Entries :=
  match entries.lookup name with
  | none => some (entries.add name (.tables [[]]))
  | some (.tables elements) => some (entries.set name (.tables ([] :: elements)))
  | some _ => none

/-- Gives the value to a dotted key, whose last name has to be new. The tables on the way are made
by dotted keys, the nearest one always; those further off may also lie on the way to others, or be
the latest element of an array of tables. -/
def assign (last : String) (value : Value) : List String → Entries → Option Entries
  | [], entries =>
    match entries.lookup last with
    | none => some (entries.add last value)
    | some _ => none
  | name :: rest, entries =>
    match entries.lookup name with
    | none =>
      (assign last value rest []).map fun sub => entries.add name (.table .dotted sub)
    | some (.table .dotted sub) =>
      (assign last value rest sub).map fun sub => entries.set name (.table .dotted sub)
    | some (.table .implicit sub) =>
      if rest.isEmpty then none
      else (assign last value rest sub).map fun sub => entries.set name (.table .implicit sub)
    | some (.tables (latest :: older)) =>
      if rest.isEmpty then none
      else (assign last value rest latest).map fun sub => entries.set name (.tables (sub :: older))
    | some _ => none

end Entries

/-- A key: the names before the last, and the last. -/
structure Key where
  parents : List String
  last : String

def Key.names (k : Key) : List String := k.parents ++ [k.last]

/-- One statement of a document. -/
inductive Statement where
  | table (key : Key)
  /-- A header in double brackets opens an element of an array of tables. -/
  | element (key : Key)
  | assign (key : Key) (value : Value)

/-- A document in the making: its entries, and the path of the table that assignments go to. -/
structure Draft where
  entries : Entries := []
  path : List String := []

/-- Adds a statement, unless it clashes with an earlier one. -/
def Draft.add (d : Draft) : Statement → Option Draft
  | .table key =>
    (d.entries.descend (Entries.openTable key.last) key.parents).map (⟨·, key.names⟩)
  | .element key =>
    (d.entries.descend (Entries.openElement key.last) key.parents).map (⟨·, key.names⟩)
  | .assign key value =>
    (d.entries.descend (Entries.assign key.last value key.parents) d.path).map (⟨·, d.path⟩)

/-- The entries that statements make up together. -/
def Entries.ofStatements? (statements : List Statement) : Option Entries :=
  (statements.foldlM Draft.add {}).map (·.entries)

end ModemRelay.Toml
