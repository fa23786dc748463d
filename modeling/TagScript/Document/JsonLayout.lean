/-!
# `TagScript.Document.JsonLayout`: JSON text over several lines

Laying JSON text out does not look at the meaning of its scalars: they are
carried over character by character. The text is read into its skeleton of lists
and objects, and the skeleton is written with one item to a line.

* `Json.Skeleton.parse?`: the skeleton of a text, if it is JSON.
* `Json.indent?`: the text laid out with a given indentation.
-/

set_option autoImplicit false

namespace TagScript.Json

/-- The structure of a JSON text, its scalars uninterpreted. -/
inductive Skeleton where
  | scalar (source : List Char)
  | list (items : List Skeleton)
  /-- Members by the source of their keys. -/
  | object (members : List (List Char × Skeleton))
deriving Inhabited

namespace Skeleton

/-- The characters that JSON allows between tokens. -/
def isSpace (c : Char) : Bool :=
  c == ' ' || c == '\t' || c == '\n' || c == '\r'

/-- The text behind the blanks at its start. -/
def skip (cs : List Char) : List Char :=
  cs.dropWhile isSpace

/-- A hexadecimal digit. -/
def isHex (c : Char) : Bool :=
  c.isDigit || ('a' ≤ c && c ≤ 'f') || ('A' ≤ c && c ≤ 'F')

/-- The rest of a string behind its opening quote: the characters up to and
including the closing quote, and what follows. -/
def stringRest? : List Char → Option (List Char × List Char)
  | [] => none
  | '"' :: rest => some (['"'], rest)
  | '\\' :: 'u' :: a :: b :: c :: d :: rest =>
    if isHex a && isHex b && isHex c && isHex d then
      (stringRest? rest).map fun (s, r) => ('\\' :: 'u' :: a :: b :: c :: d :: s, r)
    else none
  | '\\' :: c :: rest =>
    if "\"\\/bfnrt".toList.contains c then
      (stringRest? rest).map fun (s, r) => ('\\' :: c :: s, r)
    else none
  | c :: rest =>
    if c.toNat < 0x20 then none else (stringRest? rest).map fun (s, r) => (c :: s, r)

/-- Digits at the start of a text, at least one, and what follows. -/
def digits? (cs : List Char) : Option (List Char × List Char) :=
  match cs.takeWhile Char.isDigit with
  | [] => none
  | ds => some (ds, cs.dropWhile Char.isDigit)

/-- The whole part of a number: a zero alone, or digits that begin otherwise. -/
def whole? : List Char → Option (List Char × List Char)
  | '0' :: rest => some (['0'], rest)
  | cs => digits? cs

/-- The fraction of a number, if there is one. -/
def fraction? : List Char → Option (List Char × List Char)
  | '.' :: rest => (digits? rest).map fun (ds, r) => ('.' :: ds, r)
  | cs => some ([], cs)

/-- The exponent of a number, if there is one. -/
def exponent? : List Char → Option (List Char × List Char)
  | c :: rest =>
    if c == 'e' || c == 'E' then
      match rest with
      | '+' :: r => (digits? r).map fun (ds, r) => (c :: '+' :: ds, r)
      | '-' :: r => (digits? r).map fun (ds, r) => (c :: '-' :: ds, r)
      | r => (digits? r).map fun (ds, r) => (c :: ds, r)
    else some ([], c :: rest)
  | [] => some ([], [])

/-- A number at the start of a text, and what follows. -/
def number? (cs : List Char) : Option (List Char × List Char) := do
  let (sign, cs) := match cs with
    | '-' :: rest => (['-'], rest)
    | cs => ([], cs)
  let (whole, cs) ← whole? cs
  let (fraction, cs) ← fraction? cs
  let (exponent, cs) ← exponent? cs
  return (sign ++ whole ++ fraction ++ exponent, cs)

/-- A scalar at the start of a text, and what follows. -/
def scalar? (cs : List Char) : Option (List Char × List Char) :=
  match cs with
  | '"' :: rest => (stringRest? rest).map fun (s, r) => ('"' :: s, r)
  | 't' :: 'r' :: 'u' :: 'e' :: rest => some ("true".toList, rest)
  | 'f' :: 'a' :: 'l' :: 's' :: 'e' :: rest => some ("false".toList, rest)
  | 'n' :: 'u' :: 'l' :: 'l' :: rest => some ("null".toList, rest)
  | cs => number? cs

mutual

/-- A value at the start of a text, and what follows. Every nested reading
consumes a character, so the length of the text bounds the nesting of calls. -/
def value? : Nat → List Char → Option (Skeleton × List Char)
  | 0, _ => none
  | fuel + 1, cs =>
    match skip cs with
    | '[' :: rest =>
      match skip rest with
      | ']' :: rest => some (.list [], rest)
      | rest => (items? fuel rest).map fun (items, r) => (.list items, r)
    | '\x7b' :: rest =>
      match skip rest with
      | '\x7d' :: rest => some (.object [], rest)
      | rest => (members? fuel rest).map fun (members, r) => (.object members, r)
    | cs => (scalar? cs).map fun (s, r) => (.scalar s, r)

/-- The items of a list up to its closing bracket. -/
def items? : Nat → List Char → Option (List Skeleton × List Char)
  | 0, _ => none
  | fuel + 1, cs => do
    let (item, rest) ← value? fuel cs
    match skip rest with
    | ',' :: rest => (items? fuel rest).map fun (items, r) => (item :: items, r)
    | ']' :: rest => some ([item], rest)
    | _ => none

/-- The members of an object up to its closing brace. -/
def members? : Nat → List Char → Option (List (List Char × Skeleton) × List Char)
  | 0, _ => none
  | fuel + 1, cs =>
    match skip cs with
    | '"' :: rest => do
      let (key, rest) ← stringRest? rest
      match skip rest with
      | ':' :: rest =>
        let (item, rest) ← value? fuel rest
        match skip rest with
        | ',' :: rest =>
          (members? fuel rest).map fun (members, r) => (('"' :: key, item) :: members, r)
        | '\x7d' :: rest => some ([('"' :: key, item)], rest)
        | _ => none
      | _ => none
    | _ => none

end

/-- The skeleton of a JSON text. -/
def parse? (cs : List Char) : Option Skeleton :=
  match value? (2 * cs.length + 2) cs with
  | some (s, rest) => if (skip rest).isEmpty then some s else none
  | none => none

/-- The start of a line at a nesting depth. -/
def margin (step : String) (depth : Nat) : String :=
  "\n" ++ "".intercalate (List.replicate depth step)

mutual

/-- A skeleton with one item to a line. -/
def write (step : String) (depth : Nat) : Skeleton → String
  | .scalar source => String.ofList source
  | .list [] => "[]"
  | .list items =>
    "[" ++ ",".intercalate (writeItems step (depth + 1) items) ++ margin step depth ++ "]"
  | .object [] => "\x7b\x7d"
  | .object members =>
    "\x7b" ++ ",".intercalate (writeMembers step (depth + 1) members) ++ margin step depth ++ "\x7d"

/-- Items, each on a line of its own. -/
def writeItems (step : String) (depth : Nat) : List Skeleton → List String
  | [] => []
  | item :: rest => (margin step depth ++ write step depth item) :: writeItems step depth rest

/-- Members, each on a line of its own. -/
def writeMembers (step : String) (depth : Nat) : List (List Char × Skeleton) → List String
  | [] => []
  | (key, item) :: rest =>
    (margin step depth ++ String.ofList key ++ ": " ++ write step depth item) ::
      writeMembers step depth rest

end

end Skeleton

/-- JSON text laid out with one item to a line, if it is JSON. -/
def indent? (step : String) (text : String) : Option String :=
  (Skeleton.parse? text.toList).map (Skeleton.write step 0)

end TagScript.Json
