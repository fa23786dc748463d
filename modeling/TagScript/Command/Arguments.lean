import TagScript.Command.Grammar

/-!
# `TagScript.Command.Arguments`: reading a command line

Arguments are read from left to right. One that begins with a dash gives flags: a
long one by name, perhaps with a value behind an equals sign, or several short
ones by letter. Anything else names a command or a source. The sources of a
command stand together: none may follow a flag that follows a source.

What the command line does not give is taken from the configuration, and what
that does not give either has its initial value.

* `Arguments.parse`: what a command line gives.
* `Given.complete`: the values of all flags.
-/

set_option autoImplicit false

namespace TagScript.Command

open Config

/-- Why a command line cannot be read. -/
inductive UsageFault where
  | unknownFlag (flag : String)
  | missingValue (flag : String)
  | invalidValue (flag : String)
  | unexpectedArgument (argument : String)
deriving Repr, DecidableEq, Inhabited

/-- The text of a fault. -/
def UsageFault.message : UsageFault → String
  | .unknownFlag flag => "unknown flag " ++ flag
  | .missingValue flag => "--" ++ flag ++ ": missing value"
  | .invalidValue flag => "--" ++ flag ++ ": invalid value"
  | .unexpectedArgument argument => "unexpected argument " ++ argument

/-- An argument; behind a double dash none is a flag. -/
inductive Argument where
  | free (s : String)
  | positional (s : String)
deriving Repr, DecidableEq, Inhabited

namespace Argument

/-- The text of an argument. -/
def text : Argument → String
  | .free s | .positional s => s

/-- Whether an argument can be a value: it does not begin with a dash, or is one. -/
def isValue : Argument → Bool
  | .positional _ => true
  | .free s => s = "-" || s.toList.head? != some '-'

end Argument

/-- Flags that end the program before it does anything. -/
inductive Ending where
  | help
  | version
deriving Repr, DecidableEq, Inhabited

/-- What a command line gives. -/
structure Given where
  place : Place
  values : Table FlagValue
  /-- The switches that were given with `no-` at least once. -/
  negated : List String
  sources : List String
  ending : Option Ending
deriving Repr, DecidableEq, Inhabited

namespace Given

/-- What an empty command line gives. -/
def nothing : Given := ⟨.program, [], [], [], none⟩

/-- The ending that a flag asks for. -/
def endingOf? (flag : Flag) : Option Ending :=
  match flag.name with
  | "help" => some .help
  | "version" => some .version
  | _ => none

/-- Give a flag a value. A switch that was once given with `no-` is turned around
each time. -/
def give (g : Given) (flag : Flag) (negated : Bool) (value : FlagValue) : Given :=
  let turned := if negated then flag.name :: g.negated else g.negated
  let value := match value with
    | .bool b => .bool (if turned.contains flag.name then !b else b)
    | v => v
  { g with
    values := g.values.insert flag.name
      (match g.values.find? flag.name with
        | some old => old.add value
        | none => value)
    negated := turned
    ending := g.ending.orElse fun _ => endingOf? flag }

end Given

namespace Arguments

/-- The flag of a name, and whether it is given with `no-`. -/
def long? (flags : List Flag) (name : String) : Option (Flag × Bool) :=
  (flags.find? fun f => f.name = name || (f.kind.isNegatable && "no-" ++ f.name = name)).map
    fun f => (f, f.name != name)

/-- The flag of a letter. -/
def short? (flags : List Flag) (letter : Char) : Option Flag :=
  flags.find? fun f => f.letter = some letter

/-- Read the value of a flag: the text attached to it, or the next argument. -/
def valueOf (places : Places) (flag : Flag) (attached : Option String) (rest : List Argument) :
    Except UsageFault (FlagValue × List Argument) :=
  let read (s : String) (rest : List Argument) : Except UsageFault (FlagValue × List Argument) :=
    match flag.kind.ofText? places s with
    | some v => .ok (v, rest)
    | none => .error (.invalidValue flag.name)
  match attached with
  | some s => read s rest
  | none =>
    if flag.kind.isSwitch then .ok (.bool true, rest)
    else
      match rest with
      | [] => .error (.missingValue flag.name)
      | a :: rest => if a.isValue then read a.text rest else .error (.missingValue flag.name)

/-- Read a row of short flags. The first that takes a value takes the rest of the
row for it. -/
def shorts (places : Places) (flags : List Flag) :
    List Char → List Argument → Given → Except UsageFault (List Argument × Given)
  | [], rest, g => .ok (rest, g)
  | letter :: more, rest, g =>
    match short? flags letter with
    | none => .error (.unknownFlag ("-" ++ letter.toString))
    | some flag =>
      if flag.kind.isSwitch then shorts places flags more rest (g.give flag false (.bool true))
      else
        let attached := if more.isEmpty then none else some (String.ofList more)
        match valueOf places flag attached rest with
        | .error fault => .error fault
        | .ok (v, rest) => .ok (rest, g.give flag false v)

/-- The name and the attached value of a long flag. -/
def splitLong (cs : List Char) : String × Option String :=
  let name := cs.takeWhile (· != '=')
  let value := match cs.drop name.length with
    | [] => none
    | _ :: value => some (String.ofList value)
  (String.ofList name, value)

/-- Read a long flag. -/
def long (places : Places) (flags : List Flag) (cs : List Char) (rest : List Argument)
    (g : Given) : Except UsageFault (List Argument × Given) :=
  let (name, attached) := splitLong cs
  match long? flags name with
  | none => .error (.unknownFlag ("--" ++ name))
  | some (flag, negated) =>
    match valueOf places flag attached rest with
    | .error fault => .error fault
    | .ok (v, rest) => .ok (rest, g.give flag negated v)

/-- Read arguments at the place of `g`, in at most `fuel` steps; `taken` tells
whether the sources were read already. -/
def read (places : Places) : Nat → Bool → List Argument → Given → Except UsageFault Given
  | 0, _, _, g => .ok g
  | _ + 1, _, [], g => .ok { g with place := g.place.default?.getD g.place }
  | fuel + 1, taken, a :: rest, g =>
    let flags := g.place.flags
    let word : Except UsageFault Given :=
      if g.place.takesSources && !taken then
        let sources := (a :: rest).takeWhile Argument.isValue
        read places fuel true ((a :: rest).drop sources.length)
          { g with sources := sources.map Argument.text }
      else
        match g.place.commands.lookup a.text with
        | some place => read places fuel false rest { g with place }
        | none =>
          match g.place.default? with
          | some place => read places fuel false (a :: rest) { g with place }
          | none => .error (.unexpectedArgument a.text)
    match a with
    | .positional _ => word
    | .free s =>
      match s.toList with
      | ['-', '-'] => read places fuel taken (rest.map fun b => .positional b.text) g
      | '-' :: '-' :: cs =>
        match long places flags cs rest g with
        | .error fault => .error fault
        | .ok (rest, g) => read places fuel taken rest g
      | '-' :: c :: cs =>
        match shorts places flags (c :: cs) rest g with
        | .error fault => .error fault
        | .ok (rest, g) => read places fuel taken rest g
      | _ => word

/-- What a command line gives. Each step reads an argument or goes down to a
command, of which there are two levels. -/
def parse (places : Places) (arguments : List String) : Except UsageFault Given :=
  read places (arguments.length + 4) false (arguments.map .free) .nothing

end Arguments

/-- A command with the values of its flags, in the order of their declaration. -/
structure Invocation where
  place : Place
  sources : List String
  values : List (Flag × FlagValue)
deriving Repr, DecidableEq, Inhabited

namespace Invocation

/-- The value of a flag. -/
def value? (i : Invocation) (name : String) : Option FlagValue :=
  (i.values.find? fun v => v.1.name = name).map Prod.snd

/-- Whether a switch is on. -/
def isOn (i : Invocation) (name : String) : Bool := i.value? name == some (.bool true)

/-- The number that a flag holds. -/
def number (i : Invocation) (name : String) : Int :=
  match i.value? name with
  | some (.number n) => n
  | _ => 0

/-- The text that a flag holds. -/
def text (i : Invocation) (name : String) : String :=
  match i.value? name with
  | some (.text s) => s
  | _ => ""

/-- The texts that a flag holds. -/
def texts (i : Invocation) (name : String) : List String :=
  match i.value? name with
  | some (.texts items) => items
  | _ => []

end Invocation

/-- The value of a flag: as given, else as set, else its initial one. -/
def Given.valueOf (g : Given) (places : Places) (settings : Settings) (flag : Flag) :
    Except UsageFault FlagValue :=
  match g.values.find? flag.name with
  | some v => .ok v
  | none =>
    match settings.find? flag.name with
    | none | some (.scalar .null) => .ok flag.initial
    | some setting =>
      match flag.kind.ofSetting? places setting with
      | some v => .ok v
      | none => .error (.invalidValue flag.name)

/-- The values of several flags in order. -/
def Given.valuesOf (g : Given) (places : Places) (settings : Settings) :
    List Flag → Except UsageFault (List (Flag × FlagValue))
  | [] => .ok []
  | flag :: rest =>
    match g.valueOf places settings flag, g.valuesOf places settings rest with
    | .error fault, _ => .error fault
    | _, .error fault => .error fault
    | .ok v, .ok more =>
      if flag.kind.allows v then .ok ((flag, v) :: more) else .error (.invalidValue flag.name)

/-- A command line completed by the configuration. -/
def Given.complete (g : Given) (places : Places) (settings : Settings) :
    Except UsageFault Invocation :=
  match g.valuesOf places settings g.place.flags with
  | .error fault => .error fault
  | .ok values => .ok ⟨g.place, g.sources, values⟩

end TagScript.Command
