import TagScript.Text.Blank
import TagScript.Text.Letter
import TagScript.Decimal.Numeral

/-!
# `TagScript.Expression.Token`: the words of an expression

An expression is read word by word: numerals, texts between quotes, names,
operators and brackets. Blanks only divide words.

* `Token.scan?`: the words of a text, if every part of it is one.
-/

set_option autoImplicit false

namespace TagScript.Expression

open Decimal Text

/-- A word of an expression. -/
inductive Token where
  /-- A numeral, by its text without underscores. -/
  | number (source : List Char)
  | text (s : String)
  | name (s : String)
  | operator (s : String)
  | bracket (c : Char)
deriving Repr, DecidableEq, Inhabited

namespace Token

/-- A character that a name can begin with. -/
def isNameStart (c : Char) : Bool :=
  c == '_' || c == '$' || isLetter c

/-- A character of a name. -/
def isNameChar (c : Char) : Bool :=
  isNameStart c || isNumeral c

/-- The names that are operators. -/
def wordOperators : List String :=
  ["not", "in", "or", "and", "matches", "contains", "startsWith", "endsWith", "let", "if", "else"]

/-- A name or a word that is an operator. -/
def ofWord (s : String) : Token :=
  if wordOperators.contains s then .operator s else .name s

/-! ### Numerals -/

/-- The digits of a numeral, by the letter behind its leading zero. -/
def digitClass (mark : Char) : Option (Char → Bool) :=
  if mark == 'x' || mark == 'X' then some fun c => isDigitOf 16 c || c == '_'
  else if mark == 'o' || mark == 'O' then some fun c => isDigitOf 8 c || c == '_'
  else if mark == 'b' || mark == 'B' then some fun c => isDigitOf 2 c || c == '_'
  else none

/-- What may stand in front of the digits, the class of the digits, and the rest. -/
def numberStart (cs : List Char) : List Char × (Char → Bool) × List Char :=
  let decimal (c : Char) : Bool := isDigit c || c == '_'
  match cs with
  | '0' :: mark :: rest =>
    match digitClass mark with
    | some digit => (['0', mark], digit, rest)
    | none => ([], decimal, cs)
  | _ => ([], decimal, cs)

/-- The fraction of a numeral. Two points are a range, not a fraction. -/
def fractionPart (digit : Char → Bool) (cs : List Char) : List Char × List Char :=
  match cs with
  | '.' :: '.' :: _ => ([], cs)
  | '.' :: rest => ('.' :: rest.takeWhile digit, rest.dropWhile digit)
  | _ => ([], cs)

/-- The exponent of a numeral, unless two points follow its digits. -/
def exponentPart (digit : Char → Bool) (cs : List Char) : List Char × List Char :=
  match cs with
  | mark :: rest =>
    if mark == 'e' || mark == 'E' then
      let (sign, rest) := match rest with
        | '+' :: r => (['+'], r)
        | '-' :: r => (['-'], r)
        | r => ([], r)
      (mark :: sign ++ rest.takeWhile digit, rest.dropWhile digit)
    else ([], cs)
  | [] => ([], [])

/-- A numeral at the start of a text, and what follows; no name may follow. -/
def number? (cs : List Char) : Option (Token × List Char) :=
  let (mark, digit, rest) := numberStart cs
  let whole := rest.takeWhile digit
  let (fraction, rest) := fractionPart digit (rest.dropWhile digit)
  let (exponent, rest) := exponentPart digit rest
  if rest.head?.any isNameChar then none
  else some (.number ((mark ++ whole ++ fraction ++ exponent).filter (· != '_')), rest)

/-! ### Texts -/

/-- The character that a one-letter escape stands for. -/
def escaped? (quote c : Char) : Option Char :=
  match c with
  | 'a' => some (Char.ofNat 0x07)
  | 'b' => some (Char.ofNat 0x08)
  | 'f' => some (Char.ofNat 0x0c)
  | 'n' => some '\n'
  | 'r' => some '\r'
  | 't' => some '\t'
  | 'v' => some (Char.ofNat 0x0b)
  | '\\' => some '\\'
  | c => if c = quote then some c else none

/-- The character that digits of an escape stand for. -/
def coded? (base : Nat) (digits : List Char) : Option Char :=
  let n := ofDigits base digitValue digits
  if digits.all (isDigitOf base) && n.isValidChar then some (Char.ofNat n) else none

/-- The rest of a text behind its opening quote, and what follows it. -/
def textRest? (quote : Char) : List Char → Option (List Char × List Char)
  | [] => none
  | '\n' :: _ => none
  | '\\' :: 'x' :: a :: b :: rest => do
    let c ← coded? 16 [a, b]
    (textRest? quote rest).map fun (s, r) => (c :: s, r)
  | '\\' :: 'u' :: a :: b :: c :: d :: rest => do
    let c ← coded? 16 [a, b, c, d]
    (textRest? quote rest).map fun (s, r) => (c :: s, r)
  | '\\' :: c :: rest => do
    let c ← escaped? quote c
    (textRest? quote rest).map fun (s, r) => (c :: s, r)
  | c :: rest =>
    if c = quote then some ([], rest)
    else if c = '\\' then none
    else (textRest? quote rest).map fun (s, r) => (c :: s, r)

/-! ### Words -/

/-- The operators of one character that no second one can follow. -/
def singleOperators : List Char :=
  [',', ';', '%', '+', '-', '^', '/', ':', '#']

/-- The operators that a second character may follow. -/
def doubleOperators : List Char :=
  ['&', '!', '=', '*', '<', '>']

/-- The word at the start of a text that does not begin with a blank, and what
follows. -/
def next? (cs : List Char) : Option (Token × List Char) :=
  match cs with
  | [] => none
  | '|' :: '|' :: rest => some (.operator "||", rest)
  | '?' :: '?' :: rest => some (.operator "??", rest)
  | '?' :: '.' :: rest => some (.operator "?.", rest)
  | '?' :: rest => some (.operator "?", rest)
  | '.' :: '.' :: rest => some (.operator "..", rest)
  | c :: rest =>
    if c == '"' || c == '\'' then
      (textRest? c rest).map fun (s, r) => (.text (String.ofList s), r)
    else if isDigit c then number? cs
    else if c == '.' then
      if rest.head?.any isDigit then number? cs else some (.operator ".", rest)
    else if ['(', ')', '[', ']', '\x7b', '\x7d'].contains c then some (.bracket c, rest)
    else if singleOperators.contains c then some (.operator (String.singleton c), rest)
    else if doubleOperators.contains c then
      match rest with
      | d :: r =>
        if d == '&' || d == '=' || d == '*' then some (.operator (String.ofList [c, d]), r)
        else some (.operator (String.singleton c), rest)
      | [] => some (.operator (String.singleton c), [])
    else if isNameStart c then
      some (ofWord (String.ofList (cs.takeWhile isNameChar)), cs.dropWhile isNameChar)
    else none

/-- The words of a text of at most `fuel` characters. -/
def scanWithin : Nat → List Char → Option (List Token)
  | 0, cs => if cs.isEmpty then some [] else none
  | fuel + 1, cs =>
    match cs.dropWhile isBlank with
    | [] => some []
    | cs => do
      let (token, rest) ← next? cs
      (scanWithin fuel rest).map (token :: ·)

/-- The words of a text, each of which takes a character at least. -/
def scan? (source : String) : Option (List Token) :=
  scanWithin source.length source.toList

end Token

end TagScript.Expression
