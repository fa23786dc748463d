import TagScript.Text.Octets

/-!
# `TagScript.Console.Field`: the line that is being typed

A text field holds a limited number of characters and a cursor among them. Tabs
and line ends become spaces on their way in, other control characters are
dropped. The cursor counts characters.

* `Field.setValue`, `Field.setCursor`, `Field.insert`: what the console asks for.
* `Field.edit`: what the editing keys do.
-/

set_option autoImplicit false

namespace TagScript.Console

open Text

/-- The greatest number of characters in a field. -/
def fieldLimit : Nat := 4096

/-- The characters of a field, and how many of them are before the cursor. -/
structure Field where
  value : List Char
  cursor : Nat
deriving Repr, DecidableEq, Inhabited

/-- The keys that edit a field or move its cursor. Where words begin and end is left open: the
keys that go by words come with the positions that they lead to. -/
inductive EditKey where
  | backspace | delete | left | right | home | finish
  /-- Delete everything before the cursor. -/
  | deleteBefore
  /-- Delete everything after the cursor. -/
  | deleteAfter
  /-- Move the cursor to another position, such as the beginning of a word. -/
  | moveTo (cursor : Nat)
  /-- Delete from one position to another, such as a word, and leave the cursor there. -/
  | deleteFrom (start stop : Nat)
  /-- A key that means nothing to a field. -/
  | other
deriving Repr, DecidableEq, Inhabited

/-- What a field makes of a character: nothing, itself, or a space. -/
def cleanChar (c : Char) : Option Char :=
  if c = replacement then none
  else if c = '\r' || c = '\n' || c = '\t' then some ' '
  else if c.toNat < 0x20 || (0x7f ≤ c.toNat && c.toNat < 0xa0) then none
  else some c

/-- The characters that a field accepts. -/
def clean (cs : List Char) : List Char :=
  cs.filterMap cleanChar

namespace Field

/-- A field with nothing in it. -/
def empty : Field := ⟨[], 0⟩

/-- Move the cursor to a position within the value. -/
def setCursor (f : Field) (cursor : Nat) : Field :=
  { f with cursor := min cursor f.value.length }

/-- Put characters in the field as they are, cut to the limit. The cursor goes to
the end when there was nothing to stand in, or when it would be beyond it. -/
def replace (f : Field) (cs : List Char) : Field :=
  let value := cs.take fieldLimit
  let cursor := if (f.cursor = 0 && f.value.isEmpty) || value.length < f.cursor then value.length
    else f.cursor
  ⟨value, cursor⟩

/-- Put a text in the field. -/
def setValue (f : Field) (cs : List Char) : Field :=
  f.replace (clean cs)

/-- Insert a text at the cursor, as much of it as there is room for. -/
def insert (f : Field) (cs : List Char) : Field :=
  let room := fieldLimit - f.value.length
  if room = 0 then f
  else
    let new := (clean cs).take room
    let before := f.value.take f.cursor ++ new
    { f with cursor := f.cursor + new.length }.replace (before ++ f.value.drop f.cursor)

/-- What an editing key does. -/
def edit (f : Field) : EditKey → Field
  | .backspace =>
    ⟨f.value.take (f.cursor - 1) ++ f.value.drop f.cursor, f.cursor - 1⟩
  | .delete => { f with value := f.value.take f.cursor ++ f.value.drop (f.cursor + 1) }
  | .left => { f with cursor := f.cursor - 1 }
  | .right => f.setCursor (f.cursor + 1)
  | .home => { f with cursor := 0 }
  | .finish => { f with cursor := f.value.length }
  | .deleteBefore => ⟨f.value.drop f.cursor, 0⟩
  | .deleteAfter => { f with value := f.value.take f.cursor }
  | .moveTo cursor => f.setCursor cursor
  | .deleteFrom start stop =>
    ⟨f.value.take start ++ f.value.drop (max start stop), min start f.value.length⟩
  | .other => f

/-- The value as text. -/
def text (f : Field) : String := String.ofList f.value

/-- The UTF-8 form of the value. -/
def bytes (f : Field) : List UInt8 := encode f.value

end Field

end TagScript.Console
