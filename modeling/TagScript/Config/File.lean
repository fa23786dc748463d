import TagScript.Document.Basic
import TagScript.Document.Yaml.Writer
import TagScript.Log.Level
import TagScript.Log.Time
import TagScript.Value.Text

/-!
# `TagScript.Config.File`: writing a configuration file

A configuration file lists flags with their values, in the order of their
declaration. Flags that hold nothing are left out.

* `configValue`: what is written for a value.
* `configText`: the text of a file.
-/

set_option autoImplicit false

namespace TagScript.Config

/-- The configuration file on disk. -/
inductive File where
  | absent
  /-- A directory stands in its place. -/
  | directory
  | text (content : String)
deriving Repr, DecidableEq, Inhabited

/-- What a flag can hold. -/
inductive Holding where
  | value (v : Value)
  /-- A duration in nanoseconds. -/
  | duration (nanoseconds : Int)
  /-- A level of the log. -/
  | level (n : Int)

/-- What is written for a text: nothing for an empty one. -/
def configText? (s : String) : Option Value :=
  if s = "" then none else some (.text s)

/-- Whether integers of a kind are written as numbers. -/
def isPlainInteger (k : IntegerKind) : Bool :=
  ["int", "int64", "uint", "uint64"].contains k.name

/-- What is written for a value: the plain kinds as they are, all else by its
text. -/
def configValue : Holding → Option Value
  | .duration n => configText? (Log.durationText n)
  | .level n => configText? (Log.levelName n)
  | .value v =>
    match v with
    | .null => none
    | .bool b => some (.bool b)
    | .number x => some (.number x)
    | .text s => configText? s
    | .texts _ [] => none
    | .texts i items => some (.texts i items)
    | .integer k n => if isPlainInteger k then some (.integer k n) else configText? v.display
    | v => configText? v.display

/-- How many columns a configuration file is indented by. -/
def configIndent : Int := 2

/-- The text of a configuration file with the given entries. -/
def configText (entries : List (String × Holding)) : String :=
  (Document.map (entries.filterMap fun (name, held) =>
    (configValue held).map fun v => (name, v.toDocument))).toYaml (Yaml.Style.ofIndent configIndent)

end TagScript.Config
