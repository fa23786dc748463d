import TagScript.Text.Case
import TagScript.Text.Lines
import TagScript.Text.Octets

/-!
# `TagScript.Console.Word`: the word and the tag at the cursor

The cursor is a byte position in the input. Words are separated by blanks and the
characters of markup, which all are single bytes, so that the ends of a word never
fall inside a character.

* `wordBounds`: where the word at the cursor begins and ends.
* `openTag?`: the tag that is open at a position.
-/

set_option autoImplicit false

namespace TagScript.Console

open Text

/-- Characters that end a word. -/
def isBoundary (c : Char) : Bool :=
  c == ' ' || c == '\t' || c == '<' || c == '>' || c == '/' || c == '=' || c == '"' || c == '\''

/-- Bytes that end a word. -/
def isBoundaryByte (b : UInt8) : Bool :=
  isBoundary (Char.ofNat b.toNat)

/-- The part of bytes from one position to another. -/
def slice (bytes : List UInt8) (start stop : Nat) : List UInt8 :=
  (bytes.take stop).drop start

/-- The bytes of the word around a cursor: where they begin and end. A cursor
beyond the end counts as the end. -/
def wordBounds (input : List UInt8) (cursor : Nat) : Nat × Nat :=
  let before := input.take cursor
  let after := input.drop cursor
  (before.length - (before.reverse.takeWhile fun b => !isBoundaryByte b).length,
    before.length + (after.takeWhile fun b => !isBoundaryByte b).length)

/-- The word around a cursor. -/
def wordAt (input : List UInt8) (cursor : Nat) : String :=
  let (start, stop) := wordBounds input cursor
  ofOctets (slice input start stop)

/-- A tag that is not closed yet. -/
structure OpenTag where
  /-- The words of the tag, the last perhaps still being typed. -/
  fields : List String
  /-- How many of them are complete. -/
  words : Nat
deriving Repr, DecidableEq, Inhabited

/-- The name of a tag, in small letters. -/
def OpenTag.name (t : OpenTag) : String :=
  lower (t.fields.headD "")

/-- What follows the last `<` of bytes. -/
def afterLastOpen? (bytes : List UInt8) : Option (List UInt8) :=
  let body := bytes.reverse.takeWhile fun b => !isOctet '<' b
  if body.length < bytes.length then some body.reverse else none

/-- The tag that is open at a position: the last one that begins before it, if no
`>` comes after that. -/
def openTag? (input : List UInt8) (position : Nat) : Option OpenTag :=
  match afterLastOpen? (input.take position) with
  | none => none
  | some body =>
    if body.any (isOctet '>') then none
    else
      let fields := (fieldsBy isBoundary (decode body)).map String.ofList
      let complete := match body.getLast? with
        | some b => isOctet ' ' b || isOctet '\t' b
        | none => false
      some ⟨fields, if complete then fields.length else fields.length - 1⟩

end TagScript.Console
