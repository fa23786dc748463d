import TagScript.Console.Match
import TagScript.Console.Session
import TagScript.Console.Style
import TagScript.Console.Word

/-!
# `TagScript.Console.Completion`: what can be typed next

Completions are commands at the start of a line that begins with a colon, control
tags after `<`, and functions for the first word of a call. They are shown in a
bar of one line; with the arguments of a call, its signature is shown instead.

* `candidates`: the completions at a position.
* `candidateBar`: the bar, cut so that it fits.
* `signatureHint`: the signature of the call that is being typed.
-/

set_option autoImplicit false

namespace TagScript.Console

open Text

/-- The commands of the console. -/
def commandNames : List String :=
  [":clear", ":edit", ":funcs", ":help", ":quit", ":reset", ":stack"]

/-- The control tags. -/
def tagNames : List String :=
  ["cond", "defn", "do", "else", "for", "if", "let", "nb", "v"]

/-- The completions of a word that begins at a position. -/
def candidates (functions : List String) (input : List UInt8) (start : Nat) : List String :=
  if start = 0 && input.head?.any (isOctet ':') then commandNames
  else
    match openTag? input start with
    | none => []
    | some tag =>
      if tag.words = 0 then tagNames
      else if tag.words = 1 && tag.name = "do" then functions
      else []

/-! ### The bar -/

/-- The spans of a candidate from a byte position on: each character on its own. -/
def candidateSpans (base highlight : Ink) (indexes : List Nat) : Nat → List Char → Row
  | _, [] => []
  | index, c :: rest =>
    ⟨some (if indexes.contains index then highlight else base), c.toString⟩ ::
      candidateSpans base highlight indexes (index + c.utf8Size) rest

/-- A candidate with the characters that match in another ink. -/
def candidateRow (m : Match) (selected : Bool) : Row :=
  if selected then candidateSpans .selected .selectedMatch m.indexes 0 m.text.toList
  else candidateSpans .suggestion .matched m.indexes 0 m.text.toList

/-- What stands between two candidates. -/
def gap : Span := .bare "  "

/-- What stands for the candidates that do not fit. -/
def ellipsis : Span := ⟨some .hint, "..."⟩

/-- The columns of a gap. -/
def gapWidth : Nat := 2

/-- The columns of an ellipsis. -/
def ellipsisWidth : Nat := 3

/-- The rest of a bar, of which some columns are used already. -/
def barRest (palette : Palette) (available : Int) : Nat → List Row → Row
  | _, [] => []
  | used, row :: rest =>
    let columns := row.width palette + gapWidth
    if available < used + columns + ellipsisWidth then [gap, ellipsis]
    else gap :: row ++ barRest palette available (used + columns) rest

/-- Candidates in one line that fits: the first one in any case, then as many as
leave room for an ellipsis. -/
def bar (palette : Palette) (available : Int) : List Row → Row
  | [] => []
  | row :: rest =>
    if available ≤ 0 then [] else row ++ barRest palette available (row.width palette) rest

/-- The bar of matches, with the selected one set off. -/
def candidateBar (palette : Palette) (matched : List Match) (selected : Option Nat)
    (available : Int) : Row :=
  bar palette available (matched.mapIdx fun i m => candidateRow m (selected = some i))

/-! ### Signatures -/

/-- Parameters with commas between them, from a number on. -/
def parameterSpans (current : Nat) : Nat → List String → Row
  | _, [] => []
  | i, p :: rest =>
    (if i = 0 then [] else [⟨some .signature, ", "⟩]) ++
      ⟨some (if i = current then .currentParameter else .signature), p⟩ ::
      parameterSpans current (i + 1) rest

/-- A function's name and parameters, the current one set off. -/
def signatureRow (name : String) (params : List String) (current : Nat) : Row :=
  ⟨some .signatureName, name⟩ :: ⟨some .signature, "("⟩ ::
    parameterSpans current 0 params ++ [⟨some .signature, ")"⟩]

/-- The signature of the call whose arguments are being typed at the cursor. -/
def signatureHint (signature? : String → Option (List String)) (input : List UInt8)
    (cursor : Nat) : Row :=
  match openTag? input cursor with
  | none => []
  | some tag =>
    if tag.name = "do" && 2 ≤ tag.words then
      let name := (tag.fields[1]?).getD ""
      match signature? name with
      | none => []
      | some params => signatureRow name params (tag.words - 2)
    else []

end TagScript.Console
