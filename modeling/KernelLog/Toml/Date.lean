import KernelLog.Toml.Scan
import KernelLog.Toml.Value
/-!
# Dates and times of a document

A date, a time of day, or a date with a time and perhaps an offset. Days have to exist in their
month and year; a minute may have a sixty-first second. The normal text joins date and time with a
capital T, keeps at most nine places of a second and none that are zero at the end, and writes an
offset of nothing as `Z` if it was written so, otherwise with a plus.
-/
namespace KernelLog.Toml.Scan

/-- Takes a number of exactly so many digits off the front. -/
def fixedDigits : (count : Nat) → Scan (List Char)
  | 0, text => some ([], text)
  | count + 1, c :: text =>
    if c.isDigit then (fixedDigits count text).map fun (more, rest) => (c :: more, rest) else none
  | _ + 1, [] => none

/-- Takes a number of two digits off the front that is not above a greatest one. -/
def upTo (greatest : Nat) : Scan (List Char) := fun text => do
  let (digits, rest) ← fixedDigits 2 text
  if number 10 digits ≤ greatest then pure (digits, rest) else none

/-- Whether a year has a leap day. -/
def isLeapYear (year : Nat) : Bool :=
  year % 4 == 0 && (year % 100 != 0 || year % 400 == 0)

/-- The number of days of a month; there is no month 0 or 13, which have none. -/
def daysIn (year month : Nat) : Nat :=
  if month = 2 then if isLeapYear year then 29 else 28
  else if month = 4 || month = 6 || month = 9 || month = 11 then 30
  else if 1 ≤ month && month ≤ 12 then 31
  else 0

/-- Takes a date off the front and gives its text. -/
def date : Scan (List Char) := fun text => do
  let (year, text) ← fixedDigits 4 text
  let text ← literal ['-'] text
  let (month, text) ← fixedDigits 2 text
  let text ← literal ['-'] text
  let (day, rest) ← fixedDigits 2 text
  let count := number 10 day
  if 1 ≤ count && count ≤ daysIn (number 10 year) (number 10 month) then
    pure (year ++ '-' :: month ++ '-' :: day, rest)
  else none

/-- The places of a second that are kept: at most nine, and no zeros at the end. -/
def keptPlaces (places : List Char) : List Char :=
  ((places.take 9).reverse.dropWhile (· == '0')).reverse

/-- Takes the places of a second off the front, their point included, and gives their text. -/
def secondPlaces : List Char → List Char × List Char
  | '.' :: text =>
    let places := text.takeWhile Char.isDigit
    if places.isEmpty then ([], '.' :: text)
    else
      let kept := keptPlaces places
      (if kept.isEmpty then [] else '.' :: kept, text.dropWhile Char.isDigit)
  | text => ([], text)

/-- Takes a time of day off the front and gives its text. -/
def time : Scan (List Char) := fun text => do
  let (hour, text) ← upTo 23 text
  let text ← literal [':'] text
  let (minute, text) ← upTo 59 text
  let text ← literal [':'] text
  let (second, text) ← upTo 60 text
  let (places, rest) := secondPlaces text
  pure (hour ++ ':' :: minute ++ ':' :: second ++ places, rest)

/-- Takes hours and minutes of an offset off the front, after the sign. -/
def offsetSize : Scan (List Char × List Char) := fun text => do
  let (hours, text) ← upTo 23 text
  let text ← literal [':'] text
  let (minutes, rest) ← upTo 59 text
  pure ((hours, minutes), rest)

/-- Takes an offset off the front and gives its text. An offset of zero has a plus. -/
def offset : Scan (List Char)
  | c :: text =>
    if c == 'Z' || c == 'z' then some (['Z'], text)
    else if c == '+' || c == '-' then
      (offsetSize text).map fun ((hours, minutes), rest) =>
        let isZero := number 10 (hours ++ minutes) == 0
        ((if isZero then '+' else c) :: hours ++ ':' :: minutes, rest)
    else none
  | [] => none

/-- Whether a character may stand between a date and a time. -/
def joinsTime (c : Char) : Bool :=
  c == 'T' || c == 't' || c == ' '

/-- Takes a time and perhaps an offset off the front, after the character that joins them to a
date, and gives their text. -/
def timeOfDate : Scan (List Char)
  | c :: text =>
    if joinsTime c then do
      let (clock, text) ← time text
      match offset text with
      | some (zone, rest) => pure ('T' :: clock ++ zone, rest)
      | none => pure ('T' :: clock, text)
    else none
  | [] => none

/-- Takes a date, a time or both off the front. -/
def datetime : Scan Value := fun text =>
  match date text with
  | some (day, text) =>
    match timeOfDate text with
    | some (clock, rest) => some (.datetime (String.ofList (day ++ clock)), rest)
    | none => some (.datetime (String.ofList day), text)
  | none =>
    (time text).map fun (clock, rest) => (.datetime (String.ofList clock), rest)

end KernelLog.Toml.Scan
