import KernelLog.Toml.Value
/-!
# Tables under construction

The statements of a document fill in tables bit by bit, and which table may still be extended
depends on how it came about: a header defines its table once and for all, a table that a header
only passes through may yet get a header of its own, and a table that a dotted key passes through
can be extended by dotted keys alone. New entries are put behind those already there.
-/
namespace KernelLog.Toml

/-- How a table came about. -/
inductive Origin
  /-- It has a header of its own, or is the document itself, or an element of an array. -/
  | header
  /-- A header of a table below it passed through its name. -/
  | passed
  /-- A dotted key passed through its name. -/
  | dotted
  deriving DecidableEq, Repr

/-- An entry under construction. -/
inductive Node
  /-- A finished value, an inline table among them. -/
  | value (value : Value)
  | table (origin : Origin) (entries : List (String × Node))
  /-- The tables of an array that headers in double brackets extend. -/
  | tables (elements : List (List (String × Node)))

/-- The entries of a table under construction, in order. -/
abbrev Entries := List (String × Node)

namespace Entries

/-- The entry of a given name. -/
def find? (name : String) (entries : Entries) : Option Node :=
  entries.lookup name

/-- Puts another entry in the place of the one that has its name. -/
def replace (name : String) (node : Node) (entries : Entries) : Entries :=
  entries.map fun entry => if entry.1 == name then (name, node) else entry

/-- Takes away the entry of a given name. -/
def erase (name : String) (entries : Entries) : Entries :=
  entries.filter (·.1 != name)

/-- The entries of the table that a path leads to, none if there is no such table. An array stands
for its last table. -/
def follow : (path : List String) → Entries → Entries
  | [], entries => entries
  | name :: path, entries =>
    match entries.find? name with
    | some (.table _ inner) => follow path inner
    | some (.tables elements) => follow path (elements.getLast?.getD [])
    | _ => []

/-- Changes the table that a path leads to. Tables that are missing on the way are made, and an
array stands for its last table. The way is barred by values, and for a dotted key also by tables
that have a header. -/
def update (isDotted : Bool) (change : Origin → Entries → Option Entries) :
    (path : List String) → Origin → Entries → Option Entries
  | [], origin, entries => change origin entries
  | name :: path, _, entries =>
    match entries.find? name with
    | none => do
      let origin := if isDotted then .dotted else .passed
      let inner ← update isDotted change path origin []
      pure (entries ++ [(name, .table origin inner)])
    | some (.value _) => none
    | some (.tables elements) => do
      let inner ← update isDotted change path .header (elements.getLast?.getD [])
      pure (replace name (.tables (elements.dropLast ++ [inner])) entries)
    | some (.table origin inner) =>
      if isDotted && origin == .header then none
      else do
        let changed ← update isDotted change path origin inner
        pure (replace name (.table origin changed) entries)

/-- Adds the entry of an assignment. A dotted key must end in a table made by dotted keys, and the
name must be free. -/
def assign (path : List String) (name : String) (value : Value) (entries : Entries) :
    Option Entries :=
  entries.update true
    (fun origin entries =>
      if (origin == .dotted) == path.isEmpty || (entries.find? name).isSome then none
      else some (entries ++ [(name, .value value)]))
    path .header

end Entries

mutual

/-- The value of a finished entry. -/
def Node.toValue : Node → Value
  | .value finished => finished
  | .table _ entries => .table (Node.toValues entries)
  | .tables elements => .array (Node.toTables elements)

/-- The values of finished entries. -/
def Node.toValues : List (String × Node) → List (String × Value)
  | [] => []
  | (name, node) :: rest => (name, node.toValue) :: Node.toValues rest

/-- The values of finished tables. -/
def Node.toTables : List (List (String × Node)) → List Value
  | [] => []
  | entries :: rest => .table (Node.toValues entries) :: Node.toTables rest

end

end KernelLog.Toml
