import KernelLog.Toml.Scan
/-!
# Strings and keys of a document

Strings come in four forms: with double quotes, where a backslash begins an escape, or with single
quotes, where nothing does; and each on one line or, between three quotes, on several. In the long
forms a line end is always a line feed, a line end right after the opening quotes is left out, and
up to two quotes may stand before the closing three.
-/
namespace KernelLog.Toml.Scan

/-- Whether a character may stand for itself between double quotes. -/
def isBasicChar (c : Char) : Bool :=
  isCommentChar c && c != '"' && c != '\\'

/-- Whether a character may stand between single quotes. -/
def isLiteralChar (c : Char) : Bool :=
  isCommentChar c && c != '\''

/-- The character of an escape that is a single letter. -/
def shortEscape? : Char → Option Char
  | 'b' => some '\x08'
  | 't' => some '\t'
  | 'n' => some '\n'
  | 'f' => some '\x0c'
  | 'r' => some '\r'
  | '"' => some '"'
  | '\\' => some '\\'
  | _ => none

/-- The character with the code point that hexadecimal digits give. -/
def codePoint? (digits : List Char) : Option Char :=
  if digits.all (isDigitOf 16) then
    let code := number 16 digits
    if h : code.isValidChar then some (Char.ofNatAux code h) else none
  else none

/-- Takes an escape off the front, of which the backslash is gone already. -/
def escape : Scan Char
  | 'u' :: a :: b :: c :: d :: text => (codePoint? [a, b, c, d]).map (·, text)
  | 'U' :: a :: b :: c :: d :: e :: f :: g :: h :: text =>
    (codePoint? [a, b, c, d, e, f, g, h]).map (·, text)
  | c :: text => (shortEscape? c).map (·, text)
  | [] => none

/-- Takes the inside of a string with double quotes and its closing quote off the front. `budget`
bounds the number of characters in the string. -/
def basicString : (budget : Nat) → Scan (List Char)
  | 0, _ => none
  | _ + 1, [] => none
  | _ + 1, '"' :: text => some ([], text)
  | budget + 1, '\\' :: text => do
    let (c, text) ← escape text
    let (inside, rest) ← basicString budget text
    pure (c :: inside, rest)
  | budget + 1, c :: text =>
    if isBasicChar c then (basicString budget text).map fun (inside, rest) => (c :: inside, rest)
    else none

/-- Takes the inside of a string with single quotes and its closing quote off the front. -/
def literalString : Scan (List Char)
  | [] => none
  | '\'' :: text => some ([], text)
  | c :: text =>
    if isLiteralChar c then (literalString text).map fun (inside, rest) => (c :: inside, rest)
    else none

/-- Takes up to two quotes off the front, which belong to the string before its closing quotes. -/
def lastQuotes (quote : Char) : List Char → List Char × List Char
  | a :: b :: text =>
    if a = quote && b = quote then ([quote, quote], text)
    else if a = quote then ([quote], b :: text)
    else ([], a :: b :: text)
  | [a] => if a = quote then ([quote], []) else ([], [a])
  | [] => ([], [])

/-- Skips the blanks and line ends after a backslash at the end of a line, and requires that there
is a line end among them. -/
def continuation (text : List Char) : Option (List Char) :=
  match lineEnd (blanks text) with
  | some rest =>
    if (blanks text).isEmpty then none
    else some (afterBreak rest)
  | none => none
where
  /-- Skips blanks and line ends. -/
  afterBreak : List Char → List Char
    | '\r' :: '\n' :: text => afterBreak text
    | c :: text => if isBlank c || c == '\n' then afterBreak text else c :: text
    | [] => []

/-- Takes the inside of a long string with double quotes and its closing quotes off the front.
`budget` bounds the number of characters in the string. -/
def longBasicString : (budget : Nat) → Scan (List Char)
  | 0, _ => none
  | _ + 1, [] => none
  | _ + 1, '"' :: '"' :: '"' :: text => some (lastQuotes '"' text)
  | budget + 1, '\r' :: '\n' :: text =>
    (longBasicString budget text).map fun (inside, rest) => ('\n' :: inside, rest)
  | budget + 1, '\\' :: text =>
    match continuation text with
    | some text => longBasicString budget text
    | none => do
      let (c, text) ← escape text
      let (inside, rest) ← longBasicString budget text
      pure (c :: inside, rest)
  | budget + 1, c :: text =>
    if isBasicChar c || c == '\n' || c == '"' then
      (longBasicString budget text).map fun (inside, rest) => (c :: inside, rest)
    else none

/-- Takes the inside of a long string with single quotes and its closing quotes off the front. -/
def longLiteralString : Scan (List Char)
  | [] => none
  | '\'' :: '\'' :: '\'' :: text => some (lastQuotes '\'' text)
  | '\r' :: '\n' :: text =>
    (longLiteralString text).map fun (inside, rest) => ('\n' :: inside, rest)
  | c :: text =>
    if isLiteralChar c || c == '\n' || c == '\'' then
      (longLiteralString text).map fun (inside, rest) => (c :: inside, rest)
    else none

/-- Leaves out a line end at the front. -/
def withoutFirstBreak : List Char → List Char
  | '\n' :: text => text
  | '\r' :: '\n' :: text => text
  | text => text

/-- Takes a string of any form off the front. -/
def string : Scan String
  | '"' :: '"' :: '"' :: text =>
    (longBasicString (text.length + 1) (withoutFirstBreak text)).map fun (inside, rest) =>
      (String.ofList inside, rest)
  | '"' :: text =>
    (basicString (text.length + 1) text).map fun (inside, rest) => (String.ofList inside, rest)
  | '\'' :: '\'' :: '\'' :: text =>
    (longLiteralString (withoutFirstBreak text)).map fun (inside, rest) =>
      (String.ofList inside, rest)
  | '\'' :: text =>
    (literalString text).map fun (inside, rest) => (String.ofList inside, rest)
  | _ => none

/-- Whether a character may stand in a key without quotes. -/
def isBareChar (c : Char) : Bool :=
  c.isAlphanum || c == '-' || c == '_'

/-- Takes one part of a key off the front: a string on one line, or bare characters. -/
def simpleKey : Scan String
  | '"' :: text =>
    (basicString (text.length + 1) text).map fun (inside, rest) => (String.ofList inside, rest)
  | '\'' :: text =>
    (literalString text).map fun (inside, rest) => (String.ofList inside, rest)
  | text =>
    let name := text.takeWhile isBareChar
    if name.isEmpty then none else some (String.ofList name, text.dropWhile isBareChar)

/-- The number of parts that a key stays below, and of arrays and inline tables within each other
that a value does. -/
def nestingLimit : Nat := 80

/-- Takes the parts of a key off the front, with dots between them and blanks around each.
`budget` bounds their number. -/
def keyParts : (budget : Nat) → Scan (List String)
  | 0, _ => none
  | budget + 1, text => do
    let (part, text) ← simpleKey (blanks text)
    match blanks text with
    | '.' :: text => (keyParts budget text).map fun (parts, rest) => (part :: parts, rest)
    | rest => pure ([part], rest)

/-- Takes a key off the front: the names of the tables it passes through, and its last part. -/
def key : Scan (List String × String) := fun text => do
  let (parts, rest) ← keyParts (nestingLimit - 1) text
  let last ← parts.getLast?
  pure ((parts.dropLast, last), rest)

end KernelLog.Toml.Scan
