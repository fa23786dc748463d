import TagScript.Log.Logger

/-!
# `TagScript.Command.LogFlags`: log flags before anything else

The flags for logging are looked for before the command line is read, so that
complaints about it are logged as asked for. The search knows these flags only
and never complains.

* `LogFlags.scan`: the log flags of a command line, and the logger with them.
-/

set_option autoImplicit false

namespace TagScript.Command

open Log

/-- The log flags as far as they were found. -/
structure LogFlags where
  level : String
  format : String
  caller : Bool
  pretty : Bool
deriving Repr, DecidableEq, Inhabited

/-- The words for true and false. -/
def truthWord? : String → Option Bool
  | "1" | "t" | "T" | "true" | "TRUE" | "True" => some true
  | "0" | "f" | "F" | "false" | "FALSE" | "False" => some false
  | _ => none

/-- The value of a switch: one without a value is on, and one with `no-` is turned
around. -/
def switchValue? (value : Option String) (negated : Bool) : Option Bool :=
  match value with
  | none => some (!negated)
  | some s => (truthWord? s).map (· != negated)

namespace LogFlags

/-- An argument up to its first equals sign, and what follows it. -/
def cut (argument : String) : String × Option String :=
  let name := argument.toList.takeWhile (· != '=')
  match argument.toList.drop name.length with
  | [] => (argument, none)
  | _ :: value => (String.ofList name, some (String.ofList value))

/-- Take over a level. -/
def setLevel (value : String) (s : LogFlags × Logger) : LogFlags × Logger :=
  ({ s.1 with level := value }, s.2.wrap { Change.none with level := some (parseLevel value) })

/-- Take over a format. -/
def setFormat (value : String) (s : LogFlags × Logger) : LogFlags × Logger :=
  ({ s.1 with format := value }, s.2.wrap { Change.none with format := some (Format.parse value) })

/-- Take over a switch for colours. -/
def setPretty (value : Option Bool) (s : LogFlags × Logger) : LogFlags × Logger :=
  match value with
  | none => s
  | some b => ({ s.1 with pretty := b }, s.2.wrap { Change.none with pretty := some b })

/-- Take over a switch for locations. -/
def setCaller (value : Option Bool) (s : LogFlags × Logger) : LogFlags × Logger :=
  match value with
  | none => s
  | some b => ({ s.1 with caller := b }, s.2)

/-- The value of a flag that needs one, and whether it is the next argument: the
attached value, else the next argument unless that begins with a dash. -/
def wordFor (attached next : Option String) : String × Bool :=
  match attached, next with
  | some v, _ => (v, false)
  | none, some n => if n.toList.head? = some '-' then ("", false) else (n, true)
  | none, none => ("", false)

/-- Take over one argument, given the next one: also whether that was used up. -/
def take (argument : String) (next : Option String) (s : LogFlags × Logger) :
    (LogFlags × Logger) × Bool :=
  let (name, value) := cut argument
  let (word, used) := wordFor value next
  match name with
  | "--log-level" => (setLevel word s, used)
  | "--log-format" => (setFormat word s, used)
  | "--log-pretty" => (setPretty (switchValue? value false) s, false)
  | "--no-log-pretty" => (setPretty (switchValue? value true) s, false)
  | "--log-caller" => (setCaller (switchValue? value false) s, false)
  | "--no-log-caller" => (setCaller (switchValue? value true) s, false)
  | _ => (s, false)

/-- Look for the log flags in arguments. -/
def scan : List String → LogFlags × Logger → LogFlags × Logger
  | [], s => s
  | [argument], s => (take argument none s).1
  | argument :: next :: rest, s =>
    let (s, used) := take argument (some next) s
    if used then scan rest s else scan (next :: rest) s

end LogFlags

end TagScript.Command
