import TagScript.Files.Disk
import TagScript.Markup.Source

/-!
# `TagScript.Command.Source`: the templates that a command works on

Sources are named on the command line. A relative name that does not exist is
looked for in the directories of the search path. Several sources make one
template, in order. A file counts once, whatever names lead to it, and standard
input counts once and comes last.

* `searchPath`: the directories that are searched.
* `resolveSource`: the path of a source.
* `collectSources`: the nodes of all sources.
-/

set_option autoImplicit false

namespace TagScript.Command

open Files Log

/-! ### The search path -/

/-- The elements of a list, each where it comes first. -/
def firstOf : List String → List String → List String
  | _, [] => []
  | seen, s :: rest => if seen.contains s then firstOf seen rest else s :: firstOf (s :: seen) rest

/-- The directories that are searched, the last one given first. Each may be a list
of directories, which keeps its order, and those of the environment come last.
What is no directory is left out. -/
def searchPath (look : String → Lookup) (environment : String) (given : List String) :
    List String :=
  (firstOf [] (given.reverse.flatMap splitList ++ splitList environment)).filter fun path =>
    path ≠ "" && (look path).isDirectory

/-! ### Sources -/

/-- The name of standard input. -/
def standardInput : String := "-"

/-- The path of a source. A name that is absolute, or exists from the working
directory, is its own path. -/
def resolveSource (look : String → Lookup) (directories : List String) (name : String) :
    Except Failure String :=
  if isAbsolute name || (look name).found then .ok name
  else
    match (directories.map fun d => join d name).find? fun path => (look path).isFile with
    | some path => .ok path
    | none =>
      .error ((Failure.because .openSource [("file", .text name)]).wrap (.made 0)
        (some (.ofText "file does not exist")))

/-- What was collected so far: the nodes, the identities of the files that were
read, and the log. -/
structure Collection where
  nodes : List Node
  seen : List String
  log : List Record
deriving Inhabited

/-- The error of a source that cannot be opened. -/
def openFailure (path reason : String) : Failure :=
  (Failure.because .openSource [("file", .text path)]).wrap (.made 0)
    (some (.ofText ("open " ++ path ++ ": " ++ reason)))

/-- The error of a directory that is named as a source. -/
def directoryFailure (path : String) : Failure :=
  ((Failure.known .parse).wrap (.made 0)
    (some (.ofText ("read " ++ path ++ ": is a directory")))).withFields (.made 0)
      [("file", .text path)]

/-- Add the nodes of a file, unless it was read before. -/
def addFile (look : String → Lookup) (path : String) (c : Collection) :
    Except Failure Collection :=
  match look path with
  | .failed reason | .closed reason => .error (openFailure path reason)
  | .directory _ => .error (directoryFailure path)
  | .file identity content =>
    if c.seen.contains identity then
      .ok { c with
        log := c.log ++ [.at .debug "skipping duplicate source" [("file", .text path)]] }
    else
      match parseTemplate content with
      | .error fault =>
        .error (fault.toFailure.withFields (.made 0) [("file", .text path)])
      | .ok nodes =>
        .ok ⟨c.nodes ++ nodes, identity :: c.seen,
          c.log ++ [.at .trace "parsed source"
            [("file", .text path), ("nodes", .integer nodes.length)]]⟩

/-- Add the nodes of the files that are named; standard input is passed over. What
was collected before an error is returned with it. -/
def addFiles (look : String → Lookup) (directories : List String) :
    List String → Collection → Collection × Option Failure
  | [], c => (c, none)
  | name :: rest, c =>
    if name = standardInput then addFiles look directories rest c
    else
      match (resolveSource look directories name).bind fun path => addFile look path c with
      | .error failure => (c, some failure)
      | .ok c => addFiles look directories rest c

/-- The nodes of all sources, or an error, and the log. No names at all mean
standard input. -/
def collectSources (look : String → Lookup) (directories : List String) (input : String)
    (names : List String) : Except Failure (List Node) × List Record :=
  match addFiles look directories names ⟨[], [], []⟩ with
  | (c, some failure) => (.error failure, c.log)
  | (c, none) =>
    if names.isEmpty || names.contains standardInput then
      match parseTemplate input with
      | .error fault => (.error fault.toFailure, c.log)
      | .ok nodes => (.ok (c.nodes ++ nodes), c.log)
    else (.ok c.nodes, c.log)

end TagScript.Command
