import TagScript.Command.Flag
import TagScript.Eval.Machine

/-!
# `TagScript.Command.Grammar`: the commands and their flags

The program has commands, some of which have commands of their own. A command
may name a default among them, which is meant when none is given.
-/

set_option autoImplicit false

namespace TagScript.Command

/-- The program and its commands. -/
inductive Place where
  | program
  /-- Write a configuration file. -/
  | init
  /-- Print the nodes of a template in one of three forms. -/
  | print
  | printTree
  | printJson
  | printYaml
  /-- Evaluate fragments as they are typed. -/
  | console
  /-- Render templates. -/
  | render
deriving Repr, DecidableEq, Inhabited

/-- Names of the program and its version. -/
def programName : String := "tagl"
def description : String := "Markup-embedded template language"
def version : String := "0.1.0"

/-- The flags of the profiler, which is not built in, begin with this word. -/
def profilerTag : String := "pprof"

namespace Place

/-- The commands at a place, by name. -/
def commands : Place → List (String × Place)
  | .program => [("init", .init), ("fmt", .print), ("repl", .console), ("eval", .render)]
  | .print => [("tree", .printTree), ("json", .printJson), ("yaml", .printYaml)]
  | _ => []

/-- The command that is meant when none is given. -/
def default? : Place → Option Place
  | .program => some .render
  | .print => some .printTree
  | _ => none

/-- Whether a command takes the names of sources. -/
def takesSources : Place → Bool
  | .render | .printTree | .printJson | .printYaml => true
  | _ => false

/-- The flags of a place itself. -/
def ownFlags : Place → List Flag
  | .program =>
    [⟨"help", some 'h', .switch false, .bool false⟩,
      ⟨"version", some 'V', .switch false, .bool false⟩,
      ⟨"log-level", none, .choice (Log.Severity.all.map Log.Severity.name),
        .text (Log.levelName Log.defaultLevel)⟩,
      ⟨"log-format", none, .choice (Log.Format.all.map Log.Format.name), .text Log.Format.text.name⟩,
      ⟨"log-time-layout", none, .text, .text "RFC3339"⟩,
      ⟨"log-caller", none, .switch true, .bool false⟩,
      ⟨"log-pretty", none, .switch true, .bool true⟩,
      ⟨"path", some 'I', .paths, .texts []⟩,
      ⟨"define", some 'D', .texts, .texts []⟩,
      ⟨"max-depth", none, .number, .number defaultLimit⟩]
  | .init => [⟨"force", some 'f', .switch false, .bool false⟩]
  | .console => [⟨"history", none, .switch true, .bool true⟩]
  | .printJson | .printYaml => [⟨"indent", some 'i', .number, .number 2⟩]
  | .print | .printTree | .render => []

/-- The flags that can be given at a place: those of the program and its own. -/
def flags (p : Place) : List Flag :=
  Place.program.ownFlags ++ (if p = .program then [] else p.ownFlags)

end Place

end TagScript.Command
