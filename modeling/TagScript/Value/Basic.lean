/-!
# `TagScript.Value.Basic`: what a template computes with

A template works on null, booleans, texts, numbers and arrays. The application
that embeds the evaluator may hand in values of its own kinds as well: sized
integers, single-precision numbers, typed lists, maps and records. They are kept
apart from the template's own kinds, because they print and compare differently
until they have been normalised.

Arrays, typed lists and maps are objects: two of them are the same only when
they carry the same identity.
-/

set_option autoImplicit false

namespace TagScript

/-- The integer kinds of an embedding application. -/
inductive IntegerKind where
  | int | int8 | int16 | int32 | int64 | uint | uint8 | uint16 | uint32 | uint64
deriving Repr, DecidableEq, Inhabited

/-- The name of an integer kind. -/
def IntegerKind.name : IntegerKind → String
  | .int => "int" | .int8 => "int8" | .int16 => "int16" | .int32 => "int32" | .int64 => "int64"
  | .uint => "uint" | .uint8 => "uint8" | .uint16 => "uint16" | .uint32 => "uint32"
  | .uint64 => "uint64"

/-- Every integer kind. -/
def IntegerKind.all : List IntegerKind :=
  [.int, .int8, .int16, .int32, .int64, .uint, .uint8, .uint16, .uint32, .uint64]

/-- Whether a kind holds no negative numbers. -/
def IntegerKind.isUnsigned : IntegerKind → Bool
  | .uint | .uint8 | .uint16 | .uint32 | .uint64 => true
  | _ => false

/-- A runtime value. -/
inductive Value where
  | null
  | bool (b : Bool)
  | text (s : String)
  | number (x : Float)
  /-- An integer of the embedding application. -/
  | integer (kind : IntegerKind) (n : Int)
  /-- A single-precision number of the embedding application. -/
  | single (x : Float)
  | array (identity : Nat) (items : List Value)
  | texts (identity : Nat) (items : List String)
  | integers (identity : Nat) (items : List Int)
  | numbers (identity : Nat) (items : List Float)
  /-- A map with text keys, listed in the order of its keys. -/
  | map (identity : Nat) (entries : List (String × Value))
  /-- A record of the embedding application with one field. A field without
  text holds an empty list, which cannot be compared. -/
  | record (type field : String) (content : Option String)
deriving Inhabited

namespace Value

/-- The number that a value of a numeric kind stands for. -/
def numeric? : Value → Option Float
  | .number x => some x
  | .single x => some x
  | .integer _ n => some (Float.ofInt n)
  | _ => none

/-- The name of a value's kind, as diagnostics give it. -/
def typeName : Value → String
  | .null => "null"
  | .bool _ => "bool"
  | .text _ => "string"
  | .number _ => "float64"
  | .integer kind _ => kind.name
  | .single _ => "float32"
  | .array _ _ => "[]interface \x7b\x7d"
  | .texts _ _ => "[]string"
  | .integers _ _ => "[]int"
  | .numbers _ _ => "[]float64"
  | .map _ _ => "map[string]interface \x7b\x7d"
  | .record type _ _ => type

/-- Whether a value counts as true in a condition: null, false, the empty text,
zero and not-a-number do not. -/
def truthy : Value → Bool
  | .null => false
  | .bool b => b
  | .text s => s != ""
  | .number x => x != 0 && !x.isNaN
  | .single x => x != 0 && !x.isNaN
  | .integer _ n => n != 0
  | _ => true

end Value

end TagScript
