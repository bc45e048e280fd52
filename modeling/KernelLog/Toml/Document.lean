import KernelLog.Toml.Statement
/-!
# Documents

Statements are put together to a document one after another. The assignments after a header are
collected first, and when the next header or the end of the text comes the table is put into the
document. A table that earlier headers only passed through then moves behind the entries that are
there by that time.
-/
namespace KernelLog.Toml

/-- A document under construction: the tables that are complete, and the one that assignments
belong to at the moment, with its name. The first one has no name: it is the document itself. -/
structure Draft where
  complete : Entries
  current : Entries
  name : Option (List String × String)
  isElement : Bool

namespace Draft

/-- The draft of an empty text. -/
def empty : Draft where
  complete := []
  current := []
  name := none
  isElement := false

/-- Puts the current table into the document: as the document itself, as the last element of its
array, or under its name. -/
def close (draft : Draft) : Option Entries :=
  match draft.name with
  | none => some draft.current
  | some (path, name) =>
    draft.complete.update false
      (fun _ entries =>
        match entries.find? name with
        | none =>
          let node :=
            if draft.isElement then .tables [draft.current] else .table .header draft.current
          some (entries ++ [(name, node)])
        | some (.tables elements) =>
          if draft.isElement then
            some (entries.replace name (.tables (elements ++ [draft.current])))
          else none
        | some _ => none)
      path .header

/-- The entries that the table of a new header starts with: those of the tables below it that
headers have defined already. -/
def inherited (complete : Entries) (path : List String) (name : String) : Entries :=
  match (complete.follow path).find? name with
  | some (.table _ inner) => inner
  | _ => []

/-- Begins the table of a header. A table may have one header and no more, and only if dotted keys
did not make it; an array may have any number, and nothing else may have its name. -/
def openTable (path : List String) (name : String) (isElement : Bool) (draft : Draft) :
    Option Draft := do
  let complete ← draft.close
  let remaining ← complete.update false
    (fun _ entries =>
      match entries.find? name with
      | none => some entries
      | some (.tables _) => if isElement then some entries else none
      | some (.table .passed _) => if isElement then none else some (entries.erase name)
      | some _ => none)
    path .header
  pure {
    complete := remaining
    current := if isElement then [] else inherited complete path name
    name := some (path, name)
    isElement := isElement }

/-- Takes in one more statement. -/
def add (draft : Draft) : Statement → Option Draft
  | .header path name => draft.openTable path name false
  | .arrayHeader path name => draft.openTable path name true
  | .assignment path name value =>
    (draft.current.assign path name value).map fun current => { draft with current := current }

end Draft

namespace Document

/-- The document that statements make, if no two of them conflict. -/
def ofStatements? (statements : List Statement) : Option Document := do
  let draft ← statements.foldlM Draft.add Draft.empty
  pure (Node.toValues (← draft.close))

/-- The mark that may stand at the beginning of a text and belongs to no statement. -/
def byteOrderMark : Char := Char.ofNat 0xFEFF

/-- Reads a text as a document. -/
def parse? (text : String) : Option Document := do
  let characters :=
    match text.toList with
    | c :: rest => if c = byteOrderMark then rest else c :: rest
    | [] => []
  ofStatements? (← Scan.statements (characters.length + 1) characters)

end Document
end KernelLog.Toml
