/-!
# Characters of a document

What the other parts of the grammar are made of: blanks, line ends, comments, and digits with
underscores between them. A scanner takes what it recognises off the front of the text, or fails.
-/
namespace KernelLog.Toml

/-- Recognises something at the front of a text and gives what is left. -/
abbrev Scan (α : Type) := List Char → Option (α × List Char)

namespace Scan

/-- Whether a character is a blank within a line. -/
def isBlank (c : Char) : Bool :=
  c == ' ' || c == '\t'

/-- Skips blanks within a line. -/
def blanks (text : List Char) : List Char :=
  text.dropWhile isBlank

/-- Whether a character may stand in a comment: anything but controls, the tab excepted. -/
def isCommentChar (c : Char) : Bool :=
  c == '\t' || (' ' ≤ c && c != '\x7f')

/-- Takes a given text off the front. -/
def literal : List Char → List Char → Option (List Char)
  | [], text => some text
  | expected :: more, c :: text => if c = expected then literal more text else none
  | _ :: _, [] => none

/-- Takes a line end off the front; the end of the text is one too. -/
def lineEnd : List Char → Option (List Char)
  | [] => some []
  | '\n' :: text => some text
  | '\r' :: '\n' :: text => some text
  | _ => none

/-- Skips a comment, if there is one, up to the line end. -/
def comment : List Char → List Char
  | '#' :: text => text.dropWhile isCommentChar
  | text => text

/-- Takes the rest of a line off the front: blanks, perhaps a comment, and the line end. -/
def restOfLine (text : List Char) : Option (List Char) :=
  lineEnd (comment (blanks text))

/-- Skips blanks, line ends and comments, as they may stand between the items of an array. -/
def gap : (inComment : Bool) → List Char → List Char
  | _, [] => []
  | _, '\n' :: text => gap false text
  | _, '\r' :: '\n' :: text => gap false text
  | true, c :: text => if isCommentChar c then gap true text else c :: text
  | false, c :: text =>
    if isBlank c then gap false text
    else if c == '#' then gap true text
    else c :: text

/-- Takes digits off the front, single underscores between them left out. -/
def moreDigits (isDigit : Char → Bool) : List Char → List Char × List Char
  | '_' :: c :: text =>
    if isDigit c then
      let (digits, rest) := moreDigits isDigit text
      (c :: digits, rest)
    else ([], '_' :: c :: text)
  | c :: text =>
    if isDigit c then
      let (digits, rest) := moreDigits isDigit text
      (c :: digits, rest)
    else ([], c :: text)
  | [] => ([], [])

/-- Takes one digit or more off the front, single underscores between them left out. -/
def digits (isDigit : Char → Bool) : Scan (List Char)
  | c :: text =>
    if isDigit c then
      let (more, rest) := moreDigits isDigit text
      some (c :: more, rest)
    else none
  | [] => none

/-- The value of a digit in a base up to 16, in either case. -/
def digitValue (c : Char) : Nat :=
  if c.isDigit then c.toNat - '0'.toNat else c.toLower.toNat - 'a'.toNat + 10

/-- Whether a character is a digit of a base. -/
def isDigitOf (base : Nat) (c : Char) : Bool :=
  (c.isDigit || ('a' ≤ c.toLower && c.toLower ≤ 'f')) && digitValue c < base

/-- The number that digits stand for. -/
def number (base : Nat) (digits : List Char) : Nat :=
  digits.foldl (fun sum c => sum * base + digitValue c) 0

end Scan
end KernelLog.Toml
