import TagScript.Command.Run
import TagScript.Console.Screen

/-!
# `TagScript.Main`: the program

Reads what a run depends on, and carries out what comes of it. The console reads
whole lines here; its editor is not available.
-/

set_option autoImplicit false

namespace TagScript

open Command Console Files

/-- The variables of the environment. -/
def readEnvironment : IO (List (String × String)) := do
  let text ← try IO.FS.readFile "/proc/self/environ" catch _ => pure ""
  return (Text.splitOnChar (Char.ofNat 0) text.toList).map fun entry =>
    let name := entry.takeWhile (· != '=')
    (String.ofList name, String.ofList (entry.drop (name.length + 1)))

/-- A file that there is, with what is in it if it can be opened. -/
def readSource (real : String) : IO Lookup := do
  try
    return .file real (← IO.FS.readFile real)
  catch _ => return .closed "permission denied"

/-- What a path leads to. -/
def lookAt (path : String) : IO Lookup := do
  if path = "" then return missing
  try
    let real ← IO.FS.realPath path
    if !(← real.pathExists) then return missing
    if ← real.isDir then return .directory real.toString
    readSource real.toString
  catch _ => return missing

/-- The configuration file at a path. -/
def readConfig (path : String) : IO Config.File := do
  match ← lookAt path with
  | .failed _ | .closed _ => return .absent
  | .directory _ => return .directory
  | .file _ content => return .text content

/-- The time at which the program was started, in nanoseconds. -/
def startTime : IO Int := do
  try
    let self ← IO.FS.realPath "/proc/self"
    let time := (← self.metadata).modified
    return time.sec * 1000000000 + time.nsec.toNat
  catch _ => return 0

/-- All text of a stream. -/
partial def readAll (stream : IO.FS.Stream) (text : String) : IO String := do
  let line ← stream.getLine
  if line.isEmpty then return text else readAll stream (text ++ line)

/-- Show what a message made happen. -/
def present (effects : List Effect) : IO Unit :=
  effects.forM fun
    | .print text => IO.println text
    | .clear => IO.print (escape ++ "[H" ++ escape ++ "[2J")
    | .edit => IO.println "error: no editor"
    | .quit => pure ()

/-- Read lines and evaluate them until the end. -/
partial def converse (input : IO.FS.Stream) (s : Screen) : IO Unit := do
  IO.print promptText
  let line ← input.getLine
  if line.isEmpty || s.quitting then return
  let (s, effects) := (s.typeAll (Text.trimBlank line).toList).press .enter
  present effects
  if s.quitting then return
  converse input s

/-- Start the console with the flags of an invocation. -/
def startConsole (r : Request) (i : Invocation) (o : Outcome) : IO Unit := do
  match parseGlobals r.environment (i.texts "define") 1 with
  | .error _ => return
  | .ok (globals, fresh) =>
    let session := Session.start globals (i.number "max-depth") o.logger.level fresh
    converse (← IO.getStdin) (Screen.start .plain session (History.new .memory))

end TagScript

open TagScript Command in
def main (arguments : List String) : IO UInt32 := do
  let environment ← readEnvironment
  let variable_ (name : String) : String := (environment.lookup name).getD ""
  let home := variable_ "HOME"
  let base := match variable_ "XDG_CONFIG_HOME" with
    | "" => Files.join home ".config"
    | directory => directory
  let configPath := Files.join (Files.join base programName) "config.yaml"
  let stdin ← IO.getStdin
  let stdout ← IO.getStdout
  let terminal ← stdin.isTty
  let workingDirectory := (← IO.currentDir).toString
  let config ← readConfig configPath
  let now ← startTime
  let bare : Request :=
    { arguments, home, terminal, config, configPath, now
      environment := variable_
      files := ⟨workingDirectory, fun _ => Files.missing⟩
      input := ""
      output := .empty none }
  let answers ← bare.paths.mapM fun path => do return (path, ← lookAt path)
  let input ← if bare.readsInput then readAll stdin "" else pure ""
  let r := { bare with
    input
    files := ⟨workingDirectory, fun path => (answers.lookup path).getD Files.missing⟩ }
  let o := run r
  stdout.putStr (o.printed ++ o.output.accepted)
  (← IO.getStderr).putStr (o.log ++ o.complaint r.now)
  match r.config, o.config with
  | .absent, .text content => do
    IO.FS.createDirAll (Files.join base programName)
    IO.FS.writeFile configPath content
  | .text old, .text content => if old ≠ content then IO.FS.writeFile configPath content
  | _, _ => pure ()
  if let some i := o.console then startConsole r i o
  return o.status.toUInt32
