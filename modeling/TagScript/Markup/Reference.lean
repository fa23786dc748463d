import TagScript.Decimal.Numeral
import TagScript.Markup.Entity

/-!
# `TagScript.Markup.Reference`: character references in text

A reference begins with an ampersand. A numeric one is decimal or hexadecimal,
its value counted in 32-bit words; values that are no characters become the
replacement character, and the C1 controls stand for the characters of the
Windows code page. A named one is the longest run of letters and digits, with a
semicolon if there is one; in text, but not in an attribute, a known name may
also be followed directly by more letters.

* `decodeReferences`: text with its references replaced.
-/

set_option autoImplicit false

namespace TagScript.Markup

open Decimal

/-- The characters that the C1 control codes stand for. -/
def windowsTable : List Nat :=
  [0x20ac, 0x81, 0x201a, 0x192, 0x201e, 0x2026, 0x2020, 0x2021, 0x2c6, 0x2030, 0x160, 0x2039,
    0x152, 0x8d, 0x17d, 0x8f, 0x90, 0x2018, 0x2019, 0x201c, 0x201d, 0x2022, 0x2013, 0x2014,
    0x2dc, 0x2122, 0x161, 0x203a, 0x153, 0x9d, 0x17e, 0x178]

/-- The character that stands for what cannot be read. -/
def replacement : Char := Char.ofNat 0xfffd

/-- The character of a numeric reference, given its value as a 32-bit word. -/
def numericCharacter (value : Int) : Char :=
  if 0x80 ≤ value ∧ value ≤ 0x9f then
    Char.ofNat ((windowsTable[(value - 0x80).toNat]?).getD 0xfffd)
  else if value ≤ 0 ∨ (0xd800 ≤ value ∧ value ≤ 0xdfff) ∨ 0x10ffff < value then replacement
  else Char.ofNat value.toNat

/-- The value of digits in a base, wrapped to a signed 32-bit word. -/
def wordOfDigits (base : Nat) (digits : List Char) : Int :=
  digits.foldl (fun x c => Int.bmod (x * base + digitValue c) (Nat.pow 2 32)) 0

/-- Read a numeric reference behind `&#`. In the decimal form a lone digit must
be followed by a semicolon. -/
def numericReference? (cs : List Char) : Option (Char × List Char) :=
  let (base, least, body) := match cs with
    | 'x' :: r => (16, 1, r)
    | 'X' :: r => (16, 1, r)
    | r => (10, 2, r)
  let digits := body.takeWhile (isDigitOf base)
  let (used, rest) := match body.dropWhile (isDigitOf base) with
    | ';' :: r => (digits.length + 1, r)
    | r => (digits.length, r)
  if used < least then none
  else some (numericCharacter (wordOfDigits base digits), rest)

/-- An ASCII letter or digit. -/
def isAlnum (c : Char) : Bool :=
  isDigit c || ('a' ≤ c && c ≤ 'z') || ('A' ≤ c && c ≤ 'Z')

/-- The longest proper beginning of a name, of at most six characters and two at
least, that is itself a name for one character. -/
def shorterReference? (name : List Char) : Option (String × Nat) :=
  let longest := min 6 (name.length - 1)
  (List.range longest).reverse.findSome? fun i =>
    let j := i + 1
    if j < 2 then none
    else
      match namedReference? (String.ofList (name.take j)) with
      | some s => if s.length = 1 then some (s, j) else none
      | none => none

/-- Read a named reference behind `&`: what it stands for and what follows it. A
name that is not known stands for itself. -/
def namedReferenceAt (inAttribute : Bool) (cs : List Char) : List Char × List Char :=
  let letters := cs.takeWhile isAlnum
  let (name, rest) := match cs.dropWhile isAlnum with
    | ';' :: r => (letters ++ [';'], r)
    | r => (letters, r)
  let verbatim := ('&' :: name, rest)
  if name = [] then verbatim
  else if inAttribute && name.getLast? != some ';' && rest.head? == some '=' then verbatim
  else
    match namedReference? (String.ofList name) with
    | some s => (s.toList, rest)
    | none =>
      if inAttribute then verbatim
      else
        match shorterReference? name with
        | some (s, j) => (s.toList, name.drop j ++ rest)
        | none => verbatim

/-- What the reference behind an ampersand stands for, and what follows it. -/
def referenceAt (inAttribute : Bool) (cs : List Char) : List Char × List Char :=
  match cs with
  | '#' :: r =>
    match numericReference? r with
    | some (c, rest) => ([c], rest)
    | none => (['&'], cs)
  | _ => namedReferenceAt inAttribute cs

/-- Replace the references in characters, of which there are at most `fuel`. -/
def decodeWithin (inAttribute : Bool) : Nat → List Char → List Char
  | 0, _ => []
  | _, [] => []
  | fuel + 1, '&' :: r =>
    let (decoded, rest) := referenceAt inAttribute r
    decoded ++ decodeWithin inAttribute fuel rest
  | fuel + 1, c :: r => c :: decodeWithin inAttribute fuel r

/-- Replace the references in characters. -/
def decodeReferences (inAttribute : Bool) (cs : List Char) : List Char :=
  if cs.contains '&' then decodeWithin inAttribute (cs.length + 1) cs else cs

end TagScript.Markup
