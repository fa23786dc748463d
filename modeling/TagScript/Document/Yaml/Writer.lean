import TagScript.Document.Basic
import TagScript.Document.Yaml.Plain
import TagScript.Decimal.Layout
import TagScript.Text.Lines
import TagScript.Text.Quoted

/-!
# `TagScript.Document.Yaml.Writer`: documents as YAML text

In block style each item of a list and each entry of a map begins a line. The
items of a list are not indented below the key they belong to; a map below a key
is. A text of several lines is written as a block of lines below a mark. In flow
style everything stands between brackets.

* `Document.toYaml`: the text of a document.
-/

set_option autoImplicit false

namespace TagScript.Yaml

open Decimal Text

/-- YAML writes numbers like diagnostics do, but a whole number keeps a fraction. -/
def numberLayout : Layout where
  least := -4
  beyond := 6
  exponentWidth := 2
  signedZero := true
  wholeMark := ".0"
  nan := ".nan"
  infinity := ".inf"
  negativeInfinity := "-.inf"

/-- The style of YAML text. -/
structure Style where
  /-- How far a nested map and the lines of a text are indented. -/
  indent : Nat
  /-- Whether everything stands between brackets. -/
  flow : Bool

/-- Block style with an indentation, or flow style when there is none. -/
def Style.ofIndent (indent : Int) : Style :=
  if 0 < indent then ⟨indent.toNat, false⟩ else ⟨2, true⟩

/-- Blanks. -/
def blanks (n : Nat) : String :=
  String.ofList (List.replicate n ' ')

/-! ### Texts -/

/-- How the lines of a text end: the pair of carriage return and line feed where
neither stands alone, else the one that is more frequent. -/
def lineEnd (s : String) : String :=
  let feeds := s.toList.count '\n'
  let returns := s.toList.count '\r'
  let pairs := (splitOnText "\r\n" s).length - 1
  if feeds = pairs ∧ returns = pairs then "\r\n"
  else if feeds < returns then "\r"
  else "\n"

/-- The mark in front of the lines of a text: what becomes of its last line end. -/
def blockMark (s lineEnd : String) : String :=
  if s.endsWith (lineEnd ++ lineEnd) then "|+"
  else if s.endsWith lineEnd then "|"
  else "|-"

/-- The text without a given end, if it has it. -/
def dropEnd (s ending : String) : String :=
  if s.endsWith ending then String.ofList (s.toList.take (s.length - ending.length)) else s

/-- A text of several lines below its mark, each line behind a margin. -/
def block (margin s lineEnd : String) : String :=
  let lines := lineEnd.intercalate ((splitOnText lineEnd s).map (margin ++ ·))
  blockMark s lineEnd ++ lineEnd ++ dropEnd (dropEnd lines (lineEnd ++ margin)) margin

/-- Whether a text holds another. -/
def contains (s part : String) : Bool :=
  1 < (splitOnText part s).length

/-- A text: quoted where it has to be, over several lines where it has them. -/
def scalar (style : Style) (column : Nat) (s : String) : String :=
  if if style.flow then needsFlowQuotes s else needsQuotes s then quote s
  else
    let ending := lineEnd s
    if contains s ending then block (blanks (column + style.indent)) s ending else s

/-! ### Lines -/

/-- A line: how many blanks it begins with, and the text behind them. -/
structure Line where
  margin : Nat
  text : String

namespace Line

/-- The line of a text without line feeds. -/
def ofString (s : String) : Line :=
  let cs := s.toList
  let blanks := cs.takeWhile (· == ' ')
  ⟨blanks.length, String.ofList (cs.drop blanks.length)⟩

/-- The text of a line. -/
def render (l : Line) : String :=
  blanks l.margin ++ l.text

/-- A line without its first characters. -/
def drop (l : Line) (n : Nat) : Line :=
  if n ≤ l.margin then { l with margin := l.margin - n }
  else ofString (String.ofList (l.text.toList.drop (n - l.margin)))

/-- A line moved to the right. -/
def shift (l : Line) (n : Nat) : Line :=
  { l with margin := n + l.margin }

end Line

/-- The lines of a text. -/
def linesOf (s : String) : List Line :=
  (lines s).map Line.ofString

/-! ### Lists and maps -/

/-- An item of a list in block style behind its dash. The lines behind the first
are moved below it; those of a text are indented already. -/
def item (column : Nat) (isText : Bool) : List Line → List Line
  | [] => []
  | first :: rest =>
    let move (l : Line) : Line :=
      let l := if isText && column + 2 ≤ l.margin then l.drop (column + 2) else l
      if l.margin + l.text.utf8ByteSize ≤ first.margin then ⟨0, ""⟩
      else (l.drop first.margin).shift (column + 2)
    ⟨column, "- " ++ first.text⟩ :: rest.map move

/-- An entry of a map in block style: a key, and its value on the same line or on the
lines below. -/
def entry (column : Nat) (key : String) (beside : Bool) (value : List Line) : List Line :=
  match beside, value with
  | true, first :: rest => ⟨column, key ++ ": " ++ first.render⟩ :: rest
  | _, value => ⟨column, key ++ ":"⟩ :: value

/-- Whether a value stands behind its key on the same line in block style. -/
def besideKey : Document → Bool
  | .list items => items.isEmpty
  | .map entries => entries.isEmpty
  | _ => true

/-- The column of a value below a key at a column: that of the key, except that a
map is indented. -/
def columnBelow (style : Style) (column : Nat) : Document → Nat
  | .map _ => column + style.indent
  | _ => column

/-- Whether a document is a text. -/
def isText : Document → Bool
  | .text _ => true
  | _ => false

/-- The text of a document other than a list or a map. -/
def leaf (style : Style) (column : Nat) : Document → String
  | .null => "null"
  | .bool b => if b then "true" else "false"
  | .number x => numberLayout.write x
  | .single x => numberLayout.writeSingle x
  | .integer n => toString n
  | .text s => scalar style column s
  | .list _ => "[]"
  | .map _ => "\x7b\x7d"

mutual

/-- The lines of a document in block style that begin at a column. -/
def blockForm (style : Style) (column : Nat) : Document → List Line
  | .list (first :: rest) => blockItems style column (first :: rest)
  | .map (first :: rest) => blockEntries style column (first :: rest)
  | d => linesOf (leaf style column d)

/-- The lines of the items of a list. -/
def blockItems (style : Style) (column : Nat) : List Document → List Line
  | [] => []
  | d :: rest =>
    item column (isText d) (blockForm style column d) ++ blockItems style column rest

/-- The lines of the entries of a map. -/
def blockEntries (style : Style) (column : Nat) : List (String × Document) → List Line
  | [] => []
  | (key, d) :: rest =>
    entry column (scalar style column key) (besideKey d)
        (blockForm style (columnBelow style column d) d) ++
      blockEntries style column rest

end

mutual

/-- The text of a document in flow style. -/
def flowForm (style : Style) (column : Nat) : Document → String
  | .list items => "[" ++ ", ".intercalate (flowItems style column items) ++ "]"
  | .map entries => "\x7b" ++ ", ".intercalate (flowEntries style column entries) ++ "\x7d"
  | d => leaf style column d

/-- The items of a list in flow style. -/
def flowItems (style : Style) (column : Nat) : List Document → List String
  | [] => []
  | d :: rest => flowForm style column d :: flowItems style column rest

/-- The entries of a map in flow style. -/
def flowEntries (style : Style) (column : Nat) : List (String × Document) → List String
  | [] => []
  | (key, d) :: rest =>
    (scalar style column key ++ ": " ++ flowForm style (columnBelow style column d) d) ::
      flowEntries style column rest

end

end TagScript.Yaml

namespace TagScript

/-- The YAML text of a document. -/
def Document.toYaml (style : Yaml.Style) (d : Document) : String :=
  (if style.flow then Yaml.flowForm style 0 d
    else "\n".intercalate ((Yaml.blockForm style 0 d).map Yaml.Line.render)) ++ "\n"

end TagScript
