import TagScript.Log.Line

/-!
# `TagScript.Log.Pretty`: records as coloured lines

The coloured form is for terminals: keys are grey, and values have the colour of
their type or, for levels, of their severity.

* `PrettyHandler.withFields`: a logger's own attributes.
* `PrettyHandler.line`: the line of a record.
-/

set_option autoImplicit false

namespace TagScript.Log

open Decimal Text

/-- The colours of the coloured form. -/
inductive Color where
  | gray | red | green | yellow | blue | magenta | cyan
deriving Repr, DecidableEq, Inhabited

/-- The code that turns a colour on. -/
def Color.code : Color → String
  | .gray => "\x1b[90m"
  | .red => "\x1b[31m"
  | .green => "\x1b[32m"
  | .yellow => "\x1b[33m"
  | .blue => "\x1b[34m"
  | .magenta => "\x1b[35m"
  | .cyan => "\x1b[36m"

/-- The code that turns colours off. -/
def colorReset : String := "\x1b[0m"

/-- Text in a colour. -/
def Color.paint (c : Color) (s : String) : String :=
  c.code ++ s ++ colorReset

/-- The colour of a level. -/
def levelColor (level : Int) : Color :=
  if 8 ≤ level then .red else if 4 ≤ level then .yellow else if 0 ≤ level then .green else .blue

/-- A text, quoted when it is empty or holds blanks, quotes or an equals sign. -/
def prettyText (s : String) : String :=
  if s = "" ∨ s.toList.any [' ', '\t', '\n', '"', '='].contains then quote s else s

/-- The colour and the text of a value. A group has none of its own. -/
def Datum.pretty : Datum → Color × String
  | .text s => (.cyan, prettyText s)
  | .integer n => (.yellow, toString n)
  | .unsigned n => (.yellow, toString n)
  | .number x => (.yellow, general.write x)
  | .bool b => (if b then .green else .red, boolText b)
  | .duration n => (.magenta, durationText n)
  | .instant t => (.blue, formatTime secondsLayout t)
  | .severity level => (levelColor level, levelLabel level)
  | .failure message => (.cyan, message)
  | .value v => (.cyan, v.display)
  | .group _ => (.cyan, "")
  | .report _ => (.cyan, "")

namespace Pretty

/-- An attribute behind what is written already. Outside groups it is replaced
first, except a level. -/
def single (time : TimeStyle) (out path : String) (f : Field) : String :=
  match if path = "" ∧ f.1 ≠ "level" then replace time f else some f with
  | none => out
  | some f =>
    if isVoid f then out
    else
      let (color, text) := f.2.pretty
      out ++ (if out = "" then "" else " ") ++ Color.gray.paint (path ++ f.1) ++ "=" ++
        color.paint text

/-- The path inside a group. -/
def inside (path name : String) : String :=
  if name = "" then path else path ++ name ++ "."

mutual

/-- Append an attribute; the attributes of a group one after another. -/
def field (time : TimeStyle) (path name : String) : Datum → String → String
  | .group inner, out => fields time (inside path name) inner out
  | .report inner, out => fields time (inside path name) inner out
  | d, out => single time out path (name, d)

/-- Append attributes in order. -/
def fields (time : TimeStyle) (path : String) : List (String × Datum) → String → String
  | [], out => out
  | (name, d) :: rest, out => fields time path rest (field time path name d out)

end

end Pretty

/-- What a logger that writes coloured lines holds. -/
structure PrettyHandler where
  time : TimeStyle
  /-- The names of the groups begun so far, each with a dot behind it. -/
  path : String
  /-- The attributes of every record, written already. -/
  written : String
deriving Repr, DecidableEq, Inhabited

namespace PrettyHandler

/-- A logger without attributes of its own. -/
def new (time : TimeStyle) : PrettyHandler :=
  ⟨time, "", ""⟩

/-- Begin a group for the attributes to come. -/
def withGroup (h : PrettyHandler) (name : String) : PrettyHandler :=
  { h with path := Pretty.inside h.path name }

/-- Add attributes to every record. -/
def withFields (h : PrettyHandler) (fields : List Field) : PrettyHandler :=
  { h with written := Pretty.fields h.time h.path fields h.written }

/-- The line of a record. What is written already follows the message directly. -/
def line (h : PrettyHandler) (now : Int) (r : Record) : String :=
  let out := Pretty.fields h.time ""
    [("time", .instant now), ("level", .severity r.level), ("msg", .text r.message)] ""
  let fields := r.fields.filter fun f => !f.2.isEmptyGroup
  Pretty.fields h.time h.path fields (out ++ h.written) ++ "\n"

end PrettyHandler

end TagScript.Log
