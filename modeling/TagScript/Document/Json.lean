import TagScript.Document.Basic
import TagScript.Decimal.Layout
import TagScript.Text.Quoted

/-!
# `TagScript.Document.Json`: documents as JSON text

JSON text is compact: no blanks, keys in the order of the document. Two number
values cannot be written at all, and then nothing is.

* `Document.toJson`: the text of a document, or the number that has none.
* `Json.escape`: the characters inside a JSON string.
-/

set_option autoImplicit false

namespace TagScript

open Decimal Text

namespace Json

/-- JSON writes numbers positionally from a millionth up to `10 ^ 21`, exponents
without leading zeros, and the sign of a negative zero. The words for what is not
finite appear in failures only. -/
def numberLayout : Layout where
  least := -6
  beyond := 21
  exponentWidth := 1
  signedZero := true
  wholeMark := ""
  nan := "NaN"
  infinity := "+Inf"
  negativeInfinity := "-Inf"

/-- Which characters inside a string are escaped beyond what JSON requires. -/
structure Escapes where
  /-- Escape the characters that are special in markup. -/
  markup : Bool
  /-- Write backspace and form feed by one-letter escapes. -/
  short : Bool

/-- Text that may be embedded in markup. -/
def embedded : Escapes := ⟨true, true⟩

/-- Text on its own. -/
def standalone : Escapes := ⟨false, true⟩

/-- The fields of log lines. -/
def logged : Escapes := ⟨false, false⟩

/-- A four-digit escape. -/
def unitEscape (n : Nat) : List Char :=
  '\\' :: 'u' :: hexPadded 4 n

/-- The characters that stand for one character inside a string. -/
def escapeChar (e : Escapes) (c : Char) : List Char :=
  match c with
  | '"' => ['\\', '"']
  | '\\' => ['\\', '\\']
  | '\n' => ['\\', 'n']
  | '\r' => ['\\', 'r']
  | '\t' => ['\\', 't']
  | _ =>
    let n := c.toNat
    if n = 0x08 ∧ e.short then ['\\', 'b']
    else if n = 0x0c ∧ e.short then ['\\', 'f']
    else if n < 0x20 then unitEscape n
    else if e.markup ∧ (c = '<' ∨ c = '>' ∨ c = '&') then unitEscape n
    else if n = 0x2028 ∨ n = 0x2029 then unitEscape n
    else [c]

/-- The characters inside a string. -/
def escape (e : Escapes) (s : String) : String :=
  String.ofList (s.toList.flatMap (escapeChar e))

/-- A JSON string. -/
def string (e : Escapes) (s : String) : String :=
  "\"" ++ escape e s ++ "\""

/-- Why a document has no JSON text: a number that is not finite, by its word. -/
structure Unsupported where
  word : String
deriving Repr, DecidableEq, Inhabited

/-- The message of a document without JSON text. -/
def Unsupported.message (u : Unsupported) : String :=
  "json: unsupported value: " ++ u.word

/-- A number, given its text and whether it is finite. -/
def finite (x : Float) (text : String) : Except Unsupported String :=
  if x.isNaN || x.isInf then .error ⟨text⟩ else .ok text

end Json

namespace Document

open Json

mutual

/-- The JSON text of a document. -/
def toJson (e : Escapes) : Document → Except Unsupported String
  | .null => .ok "null"
  | .bool b => .ok (if b then "true" else "false")
  | .number x => finite x (numberLayout.write x)
  | .single x => finite x (numberLayout.writeSingle x)
  | .integer n => .ok (toString n)
  | .text s => .ok (string e s)
  | .list items =>
    match listToJson e items with
    | .error u => .error u
    | .ok texts => .ok ("[" ++ ",".intercalate texts ++ "]")
  | .map entries =>
    match entriesToJson e entries with
    | .error u => .error u
    | .ok texts => .ok ("\x7b" ++ ",".intercalate texts ++ "\x7d")

/-- The JSON texts of documents, up to the first that has none. -/
def listToJson (e : Escapes) : List Document → Except Unsupported (List String)
  | [] => .ok []
  | d :: rest =>
    match toJson e d with
    | .error u => .error u
    | .ok first =>
      match listToJson e rest with
      | .error u => .error u
      | .ok texts => .ok (first :: texts)

/-- The JSON texts of map entries, up to the first that has none. -/
def entriesToJson (e : Escapes) : List (String × Document) → Except Unsupported (List String)
  | [] => .ok []
  | (key, d) :: rest =>
    match toJson e d with
    | .error u => .error u
    | .ok first =>
      match entriesToJson e rest with
      | .error u => .error u
      | .ok texts => .ok ((string e key ++ ":" ++ first) :: texts)

end

end Document

end TagScript
