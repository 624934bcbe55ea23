import Cupping.Toml.Value

/-!
Tables that are still being put together. A table is defined once: by its header, or by the names
with dots in it. A header may name tables inside of others before those have headers of their own.
-/

namespace Cupping.Toml

/-- What a table owes its being to. -/
inductive Origin where
  | header
  /-- The header of a table inside of it. -/
  | implied
  | dotted
deriving DecidableEq, Repr

/-- What can stand under a name. -/
inductive Node where
  | value (value : Value)
  | table (origin : Origin) (entries : List (String × Node))
  /-- A list of tables by their headers, the latest first. -/
  | tables (items : List (List (String × Node)))

abbrev Entries := List (String × Node)

namespace Entries

/-- Puts a node under a name, in place of an earlier one. -/
def set (name : String) (node : Node) : Entries → Entries
  | [] => [(name, node)]
  | entry :: rest => if entry.1 = name then (name, node) :: rest else entry :: set name node rest

/-- Follows names through tables and changes the table they lead to; missing tables get the given
origin. A list of tables stands for its latest one. Names with dots do not lead into tables that
have headers. -/
def descend (origin : Origin) (act : Origin → Entries → Option Entries) :
    List String → Origin → Entries → Option Entries
  | [], here, entries => act here entries
  | name :: rest, _, entries =>
    match entries.lookup name with
    | none => (descend origin act rest origin []).map fun inner =>
      entries.set name (.table origin inner)
    | some (.value _) => none
    | some (.tables []) => none
    | some (.tables (latest :: before)) => (descend origin act rest .header latest).map fun inner =>
      entries.set name (.tables (inner :: before))
    | some (.table known inner) =>
      if origin = .dotted ∧ known = .header then none
      else (descend origin act rest known inner).map fun inner =>
        entries.set name (.table known inner)

def define (name : String) (value : Value) (entries : Entries) : Option Entries :=
  if (entries.lookup name).isSome then none else some (entries.set name (.value value))

/-- Defines a name with dots in a table. A table that it leads to is one for names with dots
only. -/
def assign (path : List String) (name : String) (value : Value) (entries : Entries) :
    Option Entries :=
  descend .dotted (fun here inner =>
    if path.isEmpty || here = .dotted then define name value inner else none) path .header entries

/-- Opens the table of a header, which may have been implied before. -/
def openTable (path : List String) (name : String) (entries : Entries) : Option Entries :=
  descend .implied (fun _ inner =>
    match inner.lookup name with
    | none => some (inner.set name (.table .header []))
    | some (.table .implied contents) => some (inner.set name (.table .header contents))
    | some _ => none) path .header entries

def openItem (path : List String) (name : String) (entries : Entries) : Option Entries :=
  descend .implied (fun _ inner =>
    match inner.lookup name with
    | none => some (inner.set name (.tables [[]]))
    | some (.tables items) => some (inner.set name (.tables ([] :: items)))
    | some _ => none) path .header entries

end Entries

mutual

def Node.close : Node → Value
  | .value content => content
  | .table _ entries => .table (Node.closeEntries entries)
  | .tables items => .list (Node.closeItems items).reverse

def Node.closeEntries : List (String × Node) → List (String × Value)
  | [] => []
  | (name, node) :: rest => (name, node.close) :: Node.closeEntries rest

def Node.closeItems : List (List (String × Node)) → List Value
  | [] => []
  | entries :: rest => .table (Node.closeEntries entries) :: Node.closeItems rest

end

end Cupping.Toml
