import TagScript.Document.Basic
import TagScript.Value.Text

/-!
# `TagScript.Document.Display`: structured data in brackets

The bracketed form of structured data, as diagnostics show it: lists in square
brackets, maps with their keys in order, and a word for null.
-/

set_option autoImplicit false

namespace TagScript

open Decimal

/-- Entries in the order of their keys. -/
def sortEntries {α : Type} (entries : List (String × α)) : List (String × α) :=
  entries.mergeSort fun a b => a.1 ≤ b.1

namespace Document

mutual

/-- The bracketed form of a document. -/
def display : Document → String
  | .null => "<nil>"
  | .bool b => boolText b
  | .number x => general.write x
  | .single x => general.writeSingle x
  | .integer n => toString n
  | .text s => s
  | .list items => "[" ++ " ".intercalate (displayAll items) ++ "]"
  | .map entries =>
    "map[" ++ " ".intercalate ((sortEntries (displayEntries entries)).map fun e => e.1 ++ ":" ++ e.2)
      ++ "]"

/-- The bracketed forms of several documents. -/
def displayAll : List Document → List String
  | [] => []
  | d :: rest => display d :: displayAll rest

/-- The keys of entries with the bracketed forms of their values. -/
def displayEntries : List (String × Document) → List (String × String)
  | [] => []
  | (key, d) :: rest => (key, display d) :: displayEntries rest

end

end Document

end TagScript
