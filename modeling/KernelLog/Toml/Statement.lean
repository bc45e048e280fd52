import KernelLog.Toml.Text
import KernelLog.Toml.Number
import KernelLog.Toml.Date
import KernelLog.Toml.Table
/-!
# Values and statements of a document

A document is a sequence of statements, each on lines of its own: a header, which says what table
the following assignments belong to, or an assignment of a value to a key.
-/
namespace KernelLog.Toml

/-- A statement of a document. -/
inductive Statement
  /-- `[path.name]` -/
  | header (path : List String) (name : String)
  /-- `[[path.name]]` -/
  | arrayHeader (path : List String) (name : String)
  /-- `path.name = value` -/
  | assignment (path : List String) (name : String) (value : Value)

namespace Scan

/-- Takes a value that is neither an array nor an inline table off the front. -/
def plainValue : Scan Value
  | [] => none
  | c :: text =>
    if c == '"' || c == '\'' then
      (string (c :: text)).map fun (text, rest) => (.string text, rest)
    else if c == 't' then (literal "true".toList (c :: text)).map (.boolean true, ·)
    else if c == 'f' then (literal "false".toList (c :: text)).map (.boolean false, ·)
    else
      datetime (c :: text) <|> finiteFloat (c :: text) <|> specialFloat (c :: text) <|>
        integer (c :: text)

/-- Takes the items of an array and its closing bracket off the front. Items are separated by
commas, and one comma may follow the last. `budget` bounds their number. -/
def items (item : Scan Value) : (budget : Nat) → Scan (List Value)
  | 0, _ => none
  | budget + 1, text =>
    match gap false text with
    | ']' :: rest => some ([], rest)
    | text => do
      let (first, text) ← item text
      match gap false text with
      | ',' :: text => (items item budget text).map fun (more, rest) => (first :: more, rest)
      | ']' :: rest => some ([first], rest)
      | _ => none

/-- Takes a key, an equals sign and a value off the front. -/
def assignment (value : Scan Value) : Scan (List String × String × Value) := fun text => do
  let ((path, name), text) ← key text
  let text ← literal ['='] text
  let (assigned, rest) ← value (blanks text)
  pure ((path, name, assigned), rest)

/-- Takes the assignments of an inline table and its closing brace off the front. There is at least
one, and no comma follows the last. `budget` bounds their number. -/
def inlineAssignments (value : Scan Value) : (budget : Nat) → Scan (List (List String × String × Value))
  | 0, _ => none
  | budget + 1, text => do
    let (first, text) ← assignment value text
    match blanks text with
    | ',' :: text =>
      (inlineAssignments value budget text).map fun (more, rest) => (first :: more, rest)
    | '\x7d' :: rest => some ([first], rest)
    | _ => none

/-- The table that assignments make, if no two of them conflict. -/
def inlineTable (assignments : List (List String × String × Value)) : Option Value :=
  (assignments.foldlM (fun entries (path, name, value) => Entries.assign path name value entries)
      ([] : Entries)).map fun entries => .table (Node.toValues entries)

/-- Takes a value off the front that holds at most so many arrays and inline tables within each
other. -/
def value : (depth : Nat) → Scan Value
  | 0, text => plainValue text
  | depth + 1, '[' :: text =>
    (items (value depth) (text.length + 1) text).map fun (values, rest) => (.array values, rest)
  | depth + 1, '\x7b' :: text =>
    match blanks text with
    | '\x7d' :: rest => some (.table [], rest)
    | text => do
      let (assignments, rest) ← inlineAssignments (value depth) (text.length + 1) text
      let table ← inlineTable assignments
      pure (table, rest)
  | _ + 1, text => plainValue text

/-- Takes a statement and the rest of its last line off the front. -/
def statement : Scan Statement
  | '[' :: '[' :: text => do
    let ((path, name), text) ← key text
    let text ← literal [']', ']'] text
    let rest ← restOfLine text
    pure (.arrayHeader path name, rest)
  | '[' :: text => do
    let ((path, name), text) ← key text
    let text ← literal [']'] text
    let rest ← restOfLine text
    pure (.header path name, rest)
  | text => do
    let ((path, name, assigned), text) ← assignment (value (nestingLimit - 1)) text
    let rest ← restOfLine text
    pure (.assignment path name assigned, rest)

/-- Reads a whole text as statements, with blank lines and comments between them. `budget` bounds
the number of lines. -/
def statements : (budget : Nat) → List Char → Option (List Statement)
  | 0, _ => none
  | budget + 1, text =>
    match blanks text with
    | [] => some []
    | c :: text =>
      if c == '#' || c == '\n' || c == '\r' then do
        statements budget (← restOfLine (c :: text))
      else do
        let (first, rest) ← statement (c :: text)
        (statements budget rest).map (first :: ·)

end Scan
end KernelLog.Toml
