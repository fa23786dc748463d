import TagScript.Text.Lines
import TagScript.Text.Width

/-!
# `TagScript.Console.Style`: coloured text

What the console shows is a row of spans, each with an ink. A terminal with
sixteen colours gets every line of a span between two escape sequences; a plain
one gets the text alone. In both, a tab is shown as four spaces, and the lines of
a span are padded to the widest of them.

* `Ink.paint`: a span as text.
* `Row.paint`, `Row.width`: a row of spans, and the columns it takes.
-/

set_option autoImplicit false

namespace TagScript.Console

open Text

/-- What a terminal can show. -/
inductive Palette where
  | plain
  /-- Sixteen colours. -/
  | ansi
deriving Repr, DecidableEq, Inhabited

/-- How text is shown. Colours are numbered from zero to fifteen. -/
structure Ink where
  bold : Bool
  foreground : Option Nat
  background : Option Nat
deriving Repr, DecidableEq, Inhabited

namespace Ink

/-- Text in a colour. -/
def colour (n : Nat) : Ink := ⟨false, some n, none⟩

/-- The same ink in bold. -/
def strong (i : Ink) : Ink := { i with bold := true }

/-- Bold text in the terminal's own colour. -/
def emphasis : Ink := ⟨true, none, none⟩

def prompt : Ink := (colour 6).strong
def input : Ink := colour 15
def result : Ink := colour 2
def error : Ink := colour 1
def hint : Ink := colour 8
def suggestion : Ink := colour 4
def matched : Ink := suggestion.strong
def selected : Ink := ⟨false, some 0, some 4⟩
def selectedMatch : Ink := selected.strong
def signature : Ink := colour 8
def signatureName : Ink := (colour 6).strong
def currentParameter : Ink := (colour 11).strong

/-- The code of a text colour. -/
def foregroundCode (n : Nat) : Nat := if n < 8 then 30 + n else 82 + n

/-- The code of a background colour. -/
def backgroundCode (n : Nat) : Nat := if n < 8 then 40 + n else 92 + n

/-- The codes that switch an ink on. -/
def codes (i : Ink) : List Nat :=
  (if i.bold then [1] else []) ++ (i.foreground.map foregroundCode).toList ++
    (i.background.map backgroundCode).toList

end Ink

/-- The character that begins an escape sequence. -/
def escape : String := "\x1b"

/-- One line in an ink. -/
def paintLine (palette : Palette) (ink : Ink) (line : List Char) : String :=
  match palette with
  | .plain => String.ofList line
  | .ansi =>
    escape ++ "[" ++ ";".intercalate (ink.codes.map toString) ++ "m" ++ String.ofList line ++
      escape ++ "[0m"

/-- Text with four spaces for each tab, and line feeds alone as line ends. -/
def expand : List Char → List Char
  | [] => []
  | '\t' :: rest => ' ' :: ' ' :: ' ' :: ' ' :: expand rest
  | '\r' :: '\n' :: rest => '\n' :: expand rest
  | c :: rest => c :: expand rest

/-- The widest of some lines. -/
def widest (lines : List (List Char)) : Nat :=
  lines.foldl (fun w line => max w (width line)) 0

/-- Text in an ink, its lines padded to the widest of them. -/
def Ink.paint (palette : Palette) (ink : Ink) (text : String) : String :=
  match splitOnChar '\n' (expand text.toList) with
  | [line] => paintLine palette ink line
  | lines =>
    let columns := widest lines
    "\n".intercalate (lines.map fun line =>
      paintLine palette ink line ++ String.ofList (List.replicate (columns - width line) ' '))

/-- Text in one ink, or in none. -/
structure Span where
  ink : Option Ink
  text : String
deriving Repr, DecidableEq, Inhabited

/-- Spans next to each other. -/
abbrev Row := List Span

namespace Span

/-- A span in no ink. -/
def bare (text : String) : Span := ⟨none, text⟩

/-- A span as text. -/
def paint (palette : Palette) (s : Span) : String :=
  match s.ink with
  | none => s.text
  | some ink => ink.paint palette s.text

end Span

namespace Row

/-- A row as text. -/
def paint (palette : Palette) (row : Row) : String :=
  "".intercalate (row.map (·.paint palette))

/-- The columns of a row as it is shown, which are those of its widest line. -/
def width (palette : Palette) (row : Row) : Nat :=
  widest (splitOnChar '\n' (row.paint palette).toList)

end Row

end TagScript.Console
