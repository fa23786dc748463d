import TagScript.Command.Arguments
import TagScript.Command.LogFlags
import TagScript.Command.Source
import TagScript.Config.File
import TagScript.Globals
import TagScript.Log.Logger
import TagScript.Markup.Render
import TagScript.Template.Printer

/-!
# `TagScript.Command.Run`: one run of the program

A run depends on the command line, the files, standard input, the environment and
the configuration file, and on nothing else. What comes of it is text on the
output and in the log, perhaps a new configuration file, and an error or an exit
status.

* `run`: a run as a whole.
-/

set_option autoImplicit false

namespace TagScript.Command

open Config Files Log Text

/-- What a run depends on. -/
structure Request where
  arguments : List String
  files : Access
  /-- The home directory. -/
  home : String
  input : String
  /-- Whether standard input is a terminal. -/
  terminal : Bool
  environment : String → String
  config : Config.File
  configPath : String
  /-- Where the command writes to. -/
  output : Writer
  /-- The time at which log records are written, in nanoseconds. -/
  now : Int

/-- Why a run fails. -/
inductive Problem where
  | usage (fault : UsageFault)
  | failure (f : Failure)

/-- What comes of a run. -/
structure Outcome where
  output : Writer
  /-- What the program itself prints, other than the command's output. -/
  printed : String
  log : String
  config : Config.File
  exit : Option Nat
  problem : Option Problem
  /-- The console is to be started, with this invocation. -/
  console : Option Invocation
  /-- The logger as the flags left it. -/
  logger : Logger

/-- The environment variable with more directories for the search path. -/
def pathVariable : String := "TAGL_PATH"

/-- A run that has done nothing yet. -/
def Outcome.start (r : Request) (logger : Logger) : Outcome :=
  ⟨r.output, "", "", r.config, none, none, none, logger⟩

/-- A run that fails. -/
def Outcome.fail (o : Outcome) (f : Failure) : Outcome :=
  { o with problem := some (.failure f) }

/-- A run with more in its log. -/
def Outcome.note (o : Outcome) (r : Request) (records : List Record) : Outcome :=
  { o with log := o.log ++ o.logger.emitAll r.now records }

/-! ### Commands -/

/-- Text that ends with a line end, unless it is empty. -/
def endLine (text : String) : String :=
  if text = "" || text.toList.getLast? = some '\n' then text else text ++ "\n"

/-- Offer the whole output at once. -/
def offerOutput (o : Outcome) (text : String) : Outcome :=
  match o.output.offer text with
  | (true, output) => { o with output }
  | (false, output) =>
    { o with output }.fail ((Failure.known .writeOutput).wrap (.made 0) (some (.ofText fullMessage)))

/-- Render the sources. -/
def renderSources (r : Request) (i : Invocation) (options : Options)
    (nodes : List Node) (o : Outcome) : Outcome :=
  let (rendered, records) := renderNodes options nodes
  let o := o.note r records.toList
  match rendered with
  | .error failure => o.fail failure
  | .ok text =>
    let text := endLine text
    offerOutput (o.note r [.at .trace "rendered"
      [("sources", .integer i.sources.length), ("bytes", .integer text.utf8ByteSize)]]) text

/-- Print the nodes of the sources. -/
def printSources (form : PrintForm) (indent : Int) (nodes : List Node) (o : Outcome) : Outcome :=
  match printTemplate form indent nodes o.output with
  | (none, output) => { o with output }
  | (some failure, output) =>
    { o with output }.fail ((Failure.because .writeOutput [("format", .text form.name)]).wrap
      (.made 0) (some failure))

/-- The flags that a configuration file leaves out. -/
def isUnwritten (flag : Flag) : Bool :=
  flag.name = "help" || flag.name = "version" || (profilerTag ++ "-").toList.isPrefixOf flag.name.toList

/-- What a flag holds. -/
def FlagValue.holding : FlagValue → Holding
  | .bool b => .value (.bool b)
  | .number n => .value (.integer .int n)
  | .text s => .value (.text s)
  | .texts items => .value (.texts 0 items)

/-- The text of a configuration file with the flags of an invocation. -/
def configOf (i : Invocation) : String :=
  configText ((i.values.filter fun v => !isUnwritten v.1).map fun v => (v.1.name, v.2.holding))

/-- Write the configuration file, unless there is one and it is not to be
replaced. -/
def writeConfig (r : Request) (i : Invocation) (o : Outcome) : Outcome :=
  let failure := Failure.because .writeConfig [("file", .text r.configPath)]
  match r.config, i.isOn "force" with
  | .absent, _ | .text _, true =>
    { o with config := .text (configOf i) }.note r
      [.at .debug "initialized configuration file" [("path", .text r.configPath)]]
  | _, _ =>
    o.fail ((failure.withFields (.made 0) [("exists", .bool true)]).wrap (.made 0)
      (some (.known .fileExists)))

/-- Carry out a command that works on sources. -/
def withSources (r : Request) (i : Invocation) (carryOut : List Node → Outcome → Outcome) (o : Outcome) : Outcome :=
  let directories := searchPath r.files.look (r.environment pathVariable) (i.texts "path")
  let (collected, records) := collectSources r.files.look directories r.input i.sources
  let o := o.note r records
  match collected with
  | .error failure => o.fail failure
  | .ok nodes => carryOut nodes o

/-- Carry out a command. -/
def carryOut (r : Request) (i : Invocation) (options : Options) (o : Outcome) : Outcome :=
  match i.place with
  | .init => writeConfig r i o
  | .console =>
    if r.terminal then { o with console := some i } else o.fail (.known .noTerminal)
  | .printJson => withSources r i (printSources .json (i.number "indent")) o
  | .printYaml => withSources r i (printSources .yaml (i.number "indent")) o
  | .print | .printTree => withSources r i (printSources .tree 0) o
  | .program | .render => withSources r i (renderSources r i options) o

/-! ### The run -/

/-- The logger that the flags ask for. -/
def loggerOf (logger : Logger) (i : Invocation) : Logger :=
  logger.wrap ⟨some (parseLevel (i.text "log-level")), some (Format.parse (i.text "log-format")),
    some (i.isOn "log-pretty"), some (i.text "log-time-layout"), false⟩

/-- The record about the logger. -/
def loggerRecord (i : Invocation) : Record :=
  .at .debug "logger initialized"
    [("level", .text (i.text "log-level")), ("format", .text (i.text "log-format")),
      ("time", .text (i.text "log-time-layout")), ("caller", .bool (i.isOn "log-caller")),
      ("pretty", .bool (i.isOn "log-pretty"))]

/-- A run with a command line that was read. -/
def invoke (r : Request) (i : Invocation) (o : Outcome) : Outcome :=
  let o := { o with logger := loggerOf o.logger i }.note r [loggerRecord i]
  match parseGlobals r.environment (i.texts "define") 1 with
  | .error fault => o.fail fault.toFailure
  | .ok (globals, fresh) => carryOut r i ⟨globals, i.number "max-depth", false, fresh⟩ o

/-- The warning about a configuration that is no mapping. -/
def configWarning : Record :=
  .at .warn "ignoring invalid configuration" [("error", .text "not a mapping")]

/-- The settings of a configuration file, and what there is to log about it. -/
def settingsOf (config : Config.File) : Settings × List Record :=
  match config with
  | .text content =>
    match Settings.load? content with
    | some settings => (settings, [])
    | none => ([], [configWarning])
  | _ => ([], [])

/-- The text that explains the program. -/
def usage : String :=
  "Usage: " ++ programName ++ " <command> [flags]\n\n" ++ description ++ "\n"

/-- Where the paths of a request begin. -/
def Request.places (r : Request) : Places := ⟨r.files.workingDirectory, r.home⟩

/-- The invocation that a request comes to, if its command line can be read. -/
def Request.invocation? (r : Request) : Option Invocation :=
  ((Arguments.parse r.places r.arguments).bind fun given =>
    given.complete r.places (settingsOf r.config).1).toOption

/-- The paths that a run asks about: the directories of the search path, and each
source by itself and inside each of them. -/
def Request.paths (r : Request) : List String :=
  match r.invocation? with
  | none => []
  | some i =>
    let directories := (i.texts "path" ++ [r.environment pathVariable]).flatMap splitList
    directories ++ i.sources ++ i.sources.flatMap fun s => directories.map fun d => join d s

/-- Whether a run reads standard input. -/
def Request.readsInput (r : Request) : Bool :=
  match r.invocation? with
  | none => false
  | some i => i.place.takesSources && (i.sources.isEmpty || i.sources.contains standardInput)

/-- A run of the program. -/
def run (r : Request) : Outcome :=
  let (_, logger) := LogFlags.scan r.arguments (⟨"", "", false, false⟩, .make Change.none)
  let o := Outcome.start r logger
  if r.config = .directory then
    o.fail (.ofText (r.configPath ++ ": read " ++ r.configPath ++ ": is a directory"))
  else
    let (settings, records) := settingsOf r.config
    let o := o.note r records
    match Arguments.parse r.places r.arguments with
    | .error fault => { o with problem := some (.usage fault) }
    | .ok given =>
      match given.ending with
      | some .help => { o with printed := usage, exit := some 0 }
      | some .version => { o with printed := version ++ "\n", exit := some 0 }
      | none =>
        match given.complete r.places settings with
        | .error fault => { o with problem := some (.usage fault) }
        | .ok i => invoke r i o

/-- What is logged about the problem of a run. -/
def Outcome.complaint (o : Outcome) (now : Int) : String :=
  match o.problem with
  | none => ""
  | some problem =>
    let datum : Datum := match problem with
      | .usage fault => .failure fault.message
      | .failure f => if f.report.isEmpty then .failure f.message else .reportOf f.report
    o.logger.emit now (.at .error "run failed" [("error", datum)])

/-- The exit status of a run. -/
def Outcome.status (o : Outcome) : Nat :=
  match o.exit, o.problem with
  | some n, _ => n
  | none, some _ => 1
  | none, none => 0

end TagScript.Command
