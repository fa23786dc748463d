import TagScript.Log.Pretty
import TagScript.Document.JsonLayout

/-!
# `TagScript.Log.Logger`: what is written for a record

A logger has a configuration and a handler. The handler is made from the
configuration and then collects the logger's own attributes and groups; a logger
that is wrapped with other options starts with a new handler.

A logger without a handler writes nothing.

* `Logger.make`, `Logger.wrap`: loggers from options.
* `Logger.withFields`, `Logger.withGroup`: loggers with attributes of their own.
* `Logger.emit`: the text that is written for a record.
-/

set_option autoImplicit false

namespace TagScript.Log

/-- How a logger writes. -/
structure Config where
  level : Int
  format : Format
  /-- Colours in text, several lines in JSON. -/
  pretty : Bool
  time : TimeStyle
  /-- Whether everything that is written is thrown away. -/
  discard : Bool
deriving Repr, DecidableEq, Inhabited

/-- The configuration of a logger that is not told another. -/
def Config.default : Config :=
  ⟨defaultLevel, .text, true, .layout secondsLayout, false⟩

/-- What may be changed in a configuration. -/
structure Change where
  level : Option Int
  format : Option Format
  pretty : Option Bool
  /-- The name or text of a time layout. -/
  time : Option String
  discard : Bool
deriving Repr, DecidableEq, Inhabited

/-- A change of nothing. -/
def Change.none : Change :=
  ⟨Option.none, Option.none, Option.none, Option.none, false⟩

/-- A configuration after a change. -/
def Config.apply (c : Config) (change : Change) : Config where
  level := change.level.getD c.level
  format := change.format.getD c.format
  pretty := change.pretty.getD c.pretty
  time := match change.time with
    | Option.none => c.time
    | some s => TimeStyle.parse s
  discard := c.discard || change.discard

/-- What turns records into text. -/
inductive Handler where
  | discard
  | pretty (h : PrettyHandler)
  | plain (h : LineHandler)
  /-- JSON over several lines. -/
  | indented (h : LineHandler)
deriving Repr, DecidableEq, Inhabited

namespace Handler

/-- The handler that a configuration asks for. -/
def ofConfig (c : Config) : Handler :=
  match c.format, c.pretty with
  | .json, true => .indented (.new .json c.time)
  | .json, false => .plain (.new .json c.time)
  | .text, true => .pretty (.new c.time)
  | .text, false => .plain (.new .text c.time)
  | .unknown _, _ => .discard

/-- Add attributes to every record. -/
def withFields (fields : List Field) : Handler → Handler
  | .discard => .discard
  | .pretty h => .pretty (h.withFields fields)
  | .plain h => .plain (h.withFields fields)
  | .indented h => .indented (h.withFields fields)

/-- Begin a group for the attributes to come; a group needs a name. -/
def withGroup (name : String) (h : Handler) : Handler :=
  if name = "" then h
  else
    match h with
    | .discard => .discard
    | .pretty h => .pretty (h.withGroup name)
    | .plain h => .plain (h.withGroup name)
    | .indented h => .indented (h.withGroup name)

/-- A line of JSON over several lines; a line that is no JSON stays as it is. -/
def spread (line : String) : String :=
  let text := String.ofList (line.toList.take (line.length - 1))
  (Json.indent? "  " text).getD text ++ "\n"

/-- The text for a record. -/
def write (now : Int) (r : Record) : Handler → String
  | .discard => ""
  | .pretty h => h.line now r
  | .plain h => h.line now r
  | .indented h => spread (h.line now r)

end Handler

/-- A logger. One without a handler is not set up at all. -/
structure Logger where
  config : Config
  handler : Option Handler
deriving Repr, DecidableEq, Inhabited

namespace Logger

/-- A logger that is not set up. -/
def zero : Logger :=
  ⟨{ Config.default with discard := true }, none⟩

/-- A logger for a configuration. -/
def ofConfig (c : Config) : Logger :=
  ⟨c, some (Handler.ofConfig c)⟩

/-- A logger with the given changes to the defaults. -/
def make (change : Change) : Logger :=
  ofConfig (Config.default.apply change)

/-- A logger with changed options and no attributes. -/
def wrap (l : Logger) (change : Change) : Logger :=
  ofConfig (l.config.apply change)

/-- A logger with attributes for every record. -/
def withFields (l : Logger) (fields : List Field) : Logger :=
  { l with handler := l.handler.map (Handler.withFields fields) }

/-- A logger with a group around the attributes to come. -/
def withGroup (l : Logger) (name : String) : Logger :=
  { l with handler := l.handler.map (Handler.withGroup name) }

/-- The level below which nothing is written. -/
def level (l : Logger) : Int :=
  match l.handler with
  | none => defaultLevel
  | some _ => l.config.level

/-- The format of a logger. -/
def format (l : Logger) : Format :=
  match l.handler with
  | none => .text
  | some _ => l.config.format

/-- The text that is written for a record at a point of time. -/
def emit (l : Logger) (now : Int) (r : Record) : String :=
  match l.handler with
  | none => ""
  | some h => if l.config.discard || r.level < l.config.level then "" else h.write now r

/-- The text that is written for records in order. -/
def emitAll (l : Logger) (now : Int) (records : List Record) : String :=
  "".intercalate (records.map (l.emit now))

end Logger

end TagScript.Log
