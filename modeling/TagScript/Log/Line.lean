import TagScript.Log.Level
import TagScript.Log.Time
import TagScript.Document.Json
import TagScript.Value.Text
import TagScript.Text.Quoted

/-!
# `TagScript.Log.Line`: records as lines of text or JSON

Both plain forms write the time, the level, the message and then the attributes
of a record on one line. Groups are nested objects in JSON; in text their names
stand in front of the keys. Attributes that a logger adds to every record are
written once, when it is made, and spliced in.

* `Style.replace`: what becomes of the time and level attributes.
* `LineState.field`: append one attribute.
* `LineHandler.withFields`, `LineHandler.withGroup`: a logger's own attributes.
* `LineHandler.line`: the line of a record.
-/

set_option autoImplicit false

namespace TagScript.Log

open Decimal Text

/-- Levels as a logger shows them: the name in capitals. -/
def levelLabel (level : Int) : String :=
  upper (levelName level)

/-- The time and level attributes outside groups are shown in the logger's own
style; other attributes are shown as they are. No time is no attribute. -/
def replace (time : TimeStyle) : Field → Option Field
  | ("time", .instant t) =>
    match time.format t with
    | "" => none
    | text => some ("time", .text text)
  | ("level", .severity level) => some ("level", .text (levelLabel level))
  | f => some f

/-- Whether an attribute says nothing: no key and no value. -/
def isVoid : Field → Bool
  | ("", .value .null) => true
  | _ => false

/-! ### Values in text -/

/-- Whether a text is quoted on a line of text. -/
def needsQuoting (s : String) : Bool :=
  s == "" || s.toList.any fun c =>
    if c.toNat < 0x80 then c.toNat < 0x20 || c == ' ' || c == '=' || c == '"'
    else c.toNat == 0xfffd || isBlank c || !isPrintable c

/-- A text on a line of text. -/
def plainText (s : String) : String :=
  if needsQuoting s then quote s else s

/-- A value on a line of text. A group has none of its own. -/
def Datum.plain : Datum → String
  | .text s => plainText s
  | .integer n => toString n
  | .unsigned n => toString n
  | .number x => general.write x
  | .bool b => boolText b
  | .duration n => durationText n
  | .instant t => millisecondsText t
  | .severity level => plainText (relativeName level)
  | .failure message => plainText message
  | .value v => plainText (v.displayWith true)
  | .group _ => ""
  | .report _ => ""

/-! ### Values in JSON -/

/-- The JSON text of a document, or of the reason why it has none. -/
def documentJson (d : Document) : String :=
  match d.toJson Json.standalone with
  | .ok text => text
  | .error u => Json.string Json.logged ("!ERROR:" ++ u.message)

/-- A value on a line of JSON. A group has none of its own. -/
def Datum.json : Datum → String
  | .text s => Json.string Json.logged s
  | .integer n => toString n
  | .unsigned n => toString n
  | .number x => documentJson (.number x)
  | .bool b => boolText b
  | .duration n => toString n
  | .instant t => "\"" ++ formatTime nanosecondsLayout t ++ "\""
  | .severity level => "\"" ++ relativeName level ++ "\""
  | .failure message => Json.string Json.logged message
  | .value v => documentJson v.toDocument
  | .group _ => ""
  | .report _ => ""

/-! ### Lines under construction -/

/-- The two plain forms. -/
inductive LineForm where
  | text | json
deriving Repr, DecidableEq, Inhabited

/-- What stands between two attributes. -/
def LineForm.separator : LineForm → String
  | .text => " "
  | .json => ","

/-- A line under construction. -/
structure LineState where
  out : String
  /-- What stands in front of the next attribute. -/
  separator : String
  /-- The names of the open groups in text, each with a dot behind it. -/
  path : String
  /-- How many groups are open. -/
  depth : Nat
deriving Repr, DecidableEq, Inhabited

namespace LineState

/-- A key on a line: with the names of the open groups in front of it, quoted as
one text when either part would be. -/
def keyText (form : LineForm) (path key : String) : String :=
  match form with
  | .json => "\"" ++ Json.escape Json.logged path ++ Json.escape Json.logged key ++ "\":"
  | .text =>
    (if path = "" then plainText key
      else if needsQuoting path || needsQuoting key then quote (path ++ key)
      else path ++ key) ++ "="

/-- Append a key. -/
def key (form : LineForm) (s : LineState) (name : String) : LineState :=
  { s with out := s.out ++ s.separator ++ keyText form s.path name, separator := form.separator }

/-- Begin a group. -/
def openGroup (form : LineForm) (s : LineState) (name : String) : LineState :=
  match form with
  | .json =>
    let s := s.key form name
    { s with out := s.out ++ "\x7b", separator := "", depth := s.depth + 1 }
  | .text => { s with path := s.path ++ name ++ ".", depth := s.depth + 1 }

/-- End a group: as many characters as its name and the dot have go off the path. -/
def closeGroup (form : LineForm) (s : LineState) (name : String) : LineState :=
  match form with
  | .json => { s with out := s.out ++ "\x7d", separator := form.separator, depth := s.depth - 1 }
  | .text =>
    { s with
      path := String.ofList (s.path.toList.take (s.path.length - name.length - 1))
      separator := form.separator
      depth := s.depth - 1 }

/-- Append a value behind its key. -/
def value (form : LineForm) (s : LineState) (d : Datum) : LineState :=
  { s with out := s.out ++ match form with | .text => d.plain | .json => d.json }

/-- Begin groups in order. -/
def openGroups (form : LineForm) (s : LineState) (names : List String) : LineState :=
  names.foldl (openGroup form) s

/-- Append an attribute that is no group. Outside groups it is replaced first. -/
def single (form : LineForm) (time : TimeStyle) (s : LineState) (f : Field) : Bool × LineState :=
  match if s.depth = 0 then replace time f else some f with
  | none => (false, s)
  | some f => if isVoid f then (false, s) else (true, (s.key form f.1).value form f.2)

mutual

/-- Append an attribute: whether it said anything, and the line. A group of
nothing but silent attributes is taken back, but what was begun with it stays
begun. -/
def field (form : LineForm) (time : TimeStyle) (name : String) :
    Datum → LineState → Bool × LineState
  | .group inner, s => nested form time name inner s
  | .report inner, s => nested form time name inner s
  | d, s => single form time s (name, d)

/-- Append the attributes of a group. -/
def nested (form : LineForm) (time : TimeStyle) (name : String) :
    List (String × Datum) → LineState → Bool × LineState
  | [], s => (true, s)
  | f :: rest, s =>
    let inner := if name = "" then s else s.openGroup form name
    let (said, inner) := fields form time (f :: rest) inner
    if said then (true, if name = "" then inner else inner.closeGroup form name)
    else (false, { inner with out := s.out })

/-- Append attributes in order: whether any of them said anything. -/
def fields (form : LineForm) (time : TimeStyle) :
    List (String × Datum) → LineState → Bool × LineState
  | [], s => (false, s)
  | (name, d) :: rest, s =>
    let (said, s) := field form time name d s
    let (more, s) := fields form time rest s
    (said || more, s)

end

end LineState

/-! ### Handlers -/

/-- What a logger that writes plain lines holds. -/
structure LineHandler where
  form : LineForm
  time : TimeStyle
  /-- The groups that were begun for the attributes to come. -/
  groups : List String
  /-- How many of them are written in the attributes so far. -/
  opened : Nat
  /-- The attributes of every record, written already. -/
  written : String
  /-- The path behind the attributes so far. -/
  path : String
deriving Repr, DecidableEq, Inhabited

namespace LineHandler

/-- A logger without attributes of its own. -/
def new (form : LineForm) (time : TimeStyle) : LineHandler :=
  ⟨form, time, [], 0, "", ""⟩

/-- What follows the attributes that are written already. -/
def separatorBehind (h : LineHandler) : String :=
  if h.form = .json ∧ h.written.endsWith "\x7b" then "" else h.form.separator

/-- Begin a group for the attributes to come. -/
def withGroup (h : LineHandler) (name : String) : LineHandler :=
  { h with groups := h.groups ++ [name] }

/-- Add attributes to every record. -/
def withFields (h : LineHandler) (fields : List Field) : LineHandler :=
  if fields.all fun f => f.2.isEmptyGroup then h
  else
    let start : LineState :=
      ⟨h.written, if h.written = "" then "" else h.separatorBehind, h.path, h.opened⟩
    let opened := start.openGroups h.form (h.groups.drop h.opened)
    match LineState.fields h.form h.time fields opened with
    | (false, _) => h
    | (true, s) => { h with written := s.out, path := s.path, opened := h.groups.length }

/-- The time, the level and the message of a record. -/
def builtIns (h : LineHandler) (now : Int) (r : Record) : LineState :=
  let start : LineState := ⟨if h.form = .json then "\x7b" else "", "", "", 0⟩
  (LineState.fields h.form h.time
    [("time", .instant now), ("level", .severity r.level), ("msg", .text r.message)] start).2

/-- Append the attributes of a record in the groups begun for them: the line, and
how many groups are open at its end. -/
def recordFields (h : LineHandler) (fields : List Field) (s : LineState) : String × Nat :=
  if fields.isEmpty then (s.out, h.opened)
  else
    let start := { s with path := s.path ++ h.path, depth := h.opened }
    let opened := start.openGroups h.form (h.groups.drop h.opened)
    match LineState.fields h.form h.time fields opened with
    | (false, _) => (s.out, h.opened)
    | (true, s) => (s.out, h.groups.length)

/-- The line of a record. -/
def line (h : LineHandler) (now : Int) (r : Record) : String :=
  let s := h.builtIns now r
  let s := if h.written = "" then s
    else { s with out := s.out ++ s.separator ++ h.written, separator := h.separatorBehind }
  let (out, open_) := h.recordFields (r.fields.filter fun f => !f.2.isEmptyGroup) s
  out ++ (if h.form = .json then String.ofList (List.replicate (open_ + 1) '\x7d') else "") ++ "\n"

end LineHandler

end TagScript.Log
