import TagScript.Document.Yaml.Numeral

/-!
# `TagScript.Document.Yaml.Plain`: texts that need no quotes

A text is written without quotes when a reader takes it for nothing else: not
for a word with a meaning, a number, a date or a time, and not for punctuation.

* `Yaml.needsQuotes`: whether a text has to be quoted.
* `Yaml.isTimestamp`: dates and times.
-/

set_option autoImplicit false

namespace TagScript.Yaml

open Decimal

/-- The words that readers take for null or a boolean. -/
def reservedWords : List String :=
  ["null", "Null", "NULL", "~", "true", "True", "TRUE", "false", "False", "FALSE",
    "y", "Y", "yes", "Yes", "YES", "n", "N", "no", "No", "NO",
    "on", "On", "ON", "off", "Off", "OFF"]

/-! ### Dates and times -/

/-- A number of two digits, or of one where that is allowed, and what follows. -/
def twoDigits? (fixed : Bool) : List Char → Option (Nat × List Char)
  | a :: b :: rest =>
    if isDigit a && isDigit b then some (ofDigits 10 digitValue [a, b], rest)
    else if isDigit a && !fixed then some (digitValue a, b :: rest)
    else none
  | [a] => if isDigit a && !fixed then some (digitValue a, []) else none
  | [] => none

/-- A number of two digits below a bound. -/
def twoDigitsBelow? (fixed : Bool) (bound : Nat) (cs : List Char) : Option (Nat × List Char) :=
  (twoDigits? fixed cs).filter fun r => r.1 < bound

/-- The text behind a given character. -/
def behind? (c : Char) : List Char → Option (List Char)
  | d :: rest => if c = d then some rest else none
  | [] => none

/-- The number of days in a month. -/
def daysIn (year month : Nat) : Nat :=
  if month = 2 then
    if year % 4 = 0 ∧ (year % 100 ≠ 0 ∨ year % 400 = 0) then 29 else 28
  else if month = 4 ∨ month = 6 ∨ month = 9 ∨ month = 11 then 30
  else 31

/-- A date at the start of a text: four digits, two and two. The text behind it. -/
def date? : List Char → Option (List Char)
  | a :: b :: c :: d :: rest =>
    if [a, b, c, d].all isDigit then do
      let year := ofDigits 10 digitValue [a, b, c, d]
      let rest ← behind? '-' rest
      let (month, rest) ← twoDigits? true rest
      let rest ← behind? '-' rest
      let (day, rest) ← twoDigits? true rest
      if 1 ≤ month ∧ month ≤ 12 ∧ 1 ≤ day ∧ day ≤ daysIn year month then some rest else none
    else none
  | _ => none

/-- The text behind a fraction of a second, if there is one. -/
def dropFraction : List Char → List Char
  | mark :: digit :: rest =>
    if (mark == '.' || mark == ',') && isDigit digit then rest.dropWhile isDigit
    else mark :: digit :: rest
  | cs => cs

/-- A time of day with seconds at the start of a text. The text behind it. -/
def clock? (cs : List Char) : Option (List Char) := do
  let (_, cs) ← twoDigitsBelow? false 24 cs
  let cs ← behind? ':' cs
  let (_, cs) ← twoDigitsBelow? true 60 cs
  let cs ← behind? ':' cs
  let (_, cs) ← twoDigitsBelow? true 60 cs
  return dropFraction cs

/-- A time zone that fills the text: `Z`, or a sign, hours and minutes. -/
def isZone : List Char → Bool
  | ['Z'] => true
  | [sign, a, b, ':', c, d] =>
    (sign == '+' || sign == '-') && [a, b, c, d].all isDigit &&
      ofDigits 10 digitValue [a, b] ≤ 24 && ofDigits 10 digitValue [c, d] ≤ 60
  | _ => false

/-- What may follow a date: a time with a zone, or blanks and a time. -/
def isBehindDate : List Char → Bool
  | [] => true
  | 'T' :: rest => (clock? rest).any isZone
  | 't' :: rest => (clock? rest).any isZone
  | ' ' :: rest => clock? (rest.dropWhile (· == ' ')) == some []
  | _ => false

/-- Hours and minutes. -/
def isHourMinute (cs : List Char) : Bool :=
  ((twoDigitsBelow? false 24 cs).bind fun r =>
    (behind? ':' r.2).bind (twoDigitsBelow? false 60)).any fun r => r.2.isEmpty

/-- A date, a date with a time, or hours and minutes. -/
def isTimestamp (s : String) : Bool :=
  (date? s.toList).any isBehindDate || isHourMinute s.toList

/-! ### Punctuation -/

/-- The characters that mean something at the start of a scalar. -/
def leadingMarks : List Char :=
  ['*', '&', '[', '\x7b', '\x7d', ']', ',', '!', '|', '>', '%', '\'', '"', '@', ' ', Char.ofNat 0x60]

/-- Whether a text holds a comment mark, a backslash, or a colon or a dash with a
blank behind it. -/
def hasInnerMark : List Char → Bool
  | [] => false
  | '#' :: _ => true
  | '\\' :: _ => true
  | ':' :: ' ' :: _ => true
  | '-' :: ' ' :: _ => true
  | _ :: rest => hasInnerMark rest

/-- Whether a text has to be quoted wherever it stands. -/
def needsQuotes (s : String) : Bool :=
  s == "" || reservedWords.contains s || looksLikeNumber s || s == "-" ||
  s.toList.head?.any leadingMarks.contains ||
  s.toList.getLast?.any (fun c => c == ':' || c == ' ') ||
  isTimestamp s || hasInnerMark s.toList

/-- Whether a text holds a colon that no slash follows. -/
def hasColon : List Char → Bool
  | [] => false
  | ':' :: '/' :: rest => hasColon rest
  | ':' :: _ => true
  | _ :: rest => hasColon rest

/-- Whether a text has to be quoted between brackets. -/
def needsFlowQuotes (s : String) : Bool :=
  s.toList.any (fun c => [']', '\x7d', ',', '\'', '"'].contains c) || hasColon s.toList ||
    needsQuotes s

end TagScript.Yaml
