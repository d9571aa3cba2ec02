/-!
# TOML values

The values of a configuration file.  Floats and dates never matter to the
bridge beyond their being there, so their values are not kept.

A table remembers how it came to be, because that decides in which ways it
may still be extended.
-/

namespace ToolBridge.Toml

/-- How a table came to be. -/
inductive TableForm where
  /-- By a header of its own. -/
  | headed
  /-- As part of the path of a header. -/
  | implied
  /-- As part of a dotted key. -/
  | dotted
  /-- In braces. -/
  | inline
  deriving DecidableEq, Repr

inductive Item where
  | string (text : String)
  | integer (value : Int)
  | float
  | boolean (value : Bool)
  | moment
  | array (items : List Item)
  | table (form : TableForm) (entries : List (String × Item))
  /-- An array of tables with headers of their own. -/
  | tables (items : List (List (String × Item)))
  deriving Repr

abbrev Entries := List (String × Item)

def lookup (key : String) : Entries → Option Item
  | [] => none
  | entry :: rest => if entry.1 = key then some entry.2 else lookup key rest

/-- Replace the value of a key, or add it at the end. -/
def set (key : String) (item : Item) : Entries → Entries
  | [] => [(key, item)]
  | entry :: rest =>
      if entry.1 = key then (key, item) :: rest else entry :: set key item rest

def addNew (key : String) (item : Item) (entries : Entries) : Option Entries :=
  match lookup key entries with
  | some _ => none
  | none => some (entries ++ [(key, item)])

/-- Change the last table of an array of tables. -/
def changeLast (change : Entries → Option Entries) (items : List Entries) :
    Option (List Entries) :=
  match items.getLast? with
  | some last => (change last).map fun last => items.dropLast ++ [last]
  | none => none

/-- Add a value under a dotted key.  The tables on the way must not have a
header of their own, and the table that takes the value must itself come from
a dotted key. -/
def insertPair : (path : List String) → (key : String) → Item → Entries →
    Option Entries
  | [], key, item, entries => addNew key item entries
  | name :: path, key, item, entries =>
      match lookup name entries with
      | none =>
          (insertPair path key item []).map fun inner =>
            entries ++ [(name, .table .dotted inner)]
      | some (.table form inner) =>
          if form = .dotted ∨ (form = .implied ∧ path ≠ []) then
            (insertPair path key item inner).map fun inner =>
              set name (.table form inner) entries
          else none
      | some (.tables items) =>
          if path = [] then none
          else
            (changeLast (insertPair path key item) items).map fun items =>
              set name (.tables items) entries
      | some _ => none

/-- Change the entries of the table at the path of a header.  Tables that are
not there are implied, and an array of tables stands for its last one. -/
def descend (change : Entries → Option Entries) :
    (path : List String) → Entries → Option Entries
  | [], entries => change entries
  | name :: path, entries =>
      match lookup name entries with
      | none =>
          (descend change path []).map fun inner =>
            entries ++ [(name, .table .implied inner)]
      | some (.table .inline _) => none
      | some (.table form inner) =>
          (descend change path inner).map fun inner =>
            set name (.table form inner) entries
      | some (.tables items) =>
          (changeLast (descend change path) items).map fun items =>
            set name (.tables items) entries
      | some _ => none

/-- Give a table its header, which it can have only once. -/
def head (name : String) (entries : Entries) : Option Entries :=
  match lookup name entries with
  | none => some (entries ++ [(name, .table .headed [])])
  | some (.table .implied inner) => some (set name (.table .headed inner) entries)
  | some _ => none

/-- Begin one more table of an array of tables. -/
def extend (name : String) (entries : Entries) : Option Entries :=
  match lookup name entries with
  | none => some (entries ++ [(name, .tables [[]])])
  | some (.tables items) => some (set name (.tables (items ++ [[]])) entries)
  | some _ => none

/-- What a line of a file says. -/
inductive Statement where
  /-- A value for a dotted key. -/
  | pair (path : List String) (key : String) (item : Item)
  /-- The header of a table. -/
  | header (path : List String) (name : String)
  /-- The header of one more table of an array. -/
  | item (path : List String) (name : String)
  deriving Repr

/-- The tables so far, and the path of the last header. -/
structure Assembly where
  root : Entries := []
  current : List String := []
  deriving Repr

namespace Assembly

/-- Take one statement into account. -/
def add (assembly : Assembly) : Statement → Option Assembly
  | .pair path key item =>
      (descend (insertPair path key item) assembly.current assembly.root).map
        fun root => { assembly with root }
  | .header path name =>
      (descend (head name) path assembly.root).map fun root =>
        ⟨root, path ++ [name]⟩
  | .item path name =>
      (descend (extend name) path assembly.root).map fun root =>
        ⟨root, path ++ [name]⟩

end Assembly

/-- The top table that the statements of a file make up. -/
def assemble (statements : List Statement) : Option Entries :=
  (statements.foldlM Assembly.add {}).map Assembly.root

end ToolBridge.Toml
