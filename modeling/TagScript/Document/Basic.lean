import TagScript.Value.Basic

/-!
# `TagScript.Document.Basic`: structured data for other programs

A document is what the structured output forms write and what a configuration
file is read as: scalars, lists, and maps with text keys.

* `Value.toDocument`: a runtime value as a document.
-/

set_option autoImplicit false

namespace TagScript

/-- Structured data. -/
inductive Document where
  | null
  | bool (b : Bool)
  | number (x : Float)
  /-- A number held in single precision. -/
  | single (x : Float)
  | integer (n : Int)
  | text (s : String)
  | list (items : List Document)
  | map (entries : List (String × Document))
deriving Inhabited

namespace Value

mutual

/-- A runtime value as a document. -/
def toDocument : Value → Document
  | .null => .null
  | .bool b => .bool b
  | .text s => .text s
  | .number x => .number x
  | .integer _ n => .integer n
  | .single x => .single x
  | .array _ items => .list (toDocuments items)
  | .texts _ items => .list (items.map .text)
  | .integers _ items => .list (items.map .integer)
  | .numbers _ items => .list (items.map .number)
  | .map _ entries => .map (toEntries entries)
  | .record _ field none => .map [(field, .null)]
  | .record _ field (some s) => .map [(field, .text s)]

/-- Runtime values as documents. -/
def toDocuments : List Value → List Document
  | [] => []
  | v :: rest => toDocument v :: toDocuments rest

/-- The entries of a map as those of a document. -/
def toEntries : List (String × Value) → List (String × Document)
  | [] => []
  | (key, v) :: rest => (key, toDocument v) :: toEntries rest

end

end Value

end TagScript
