import TagScript.Text.Lines

/-!
# `TagScript.Files.Path`: names of files

A path is a list of names separated by slashes; an absolute one begins with a
slash. Paths are put in their shortest form by text alone, without looking at any
file.

* `clean`: the shortest form of a path.
* `join`: a name inside a directory.
* `absolute`: a path from the root, given the working directory.
-/

set_option autoImplicit false

namespace TagScript.Files

open Text

/-- Whether a path begins at the root. -/
def isAbsolute (path : String) : Bool :=
  path.toList.head? == some '/'

/-- The names in a path; empty ones stand for repeated or trailing slashes. -/
def names (path : String) : List String :=
  (splitOnChar '/' path.toList).map String.ofList

/-- Names with slashes between them. -/
def ofNames (parts : List String) : String :=
  "/".intercalate parts

/-- One more name on a stack of names, the last one first. A name of two dots
takes the last one away, if there is one; at the root there is nothing above. -/
def push (rooted : Bool) (stack : List String) (name : String) : List String :=
  if name = "" || name = "." then stack
  else if name = ".." then
    match stack with
    | [] => if rooted then [] else [".."]
    | top :: rest => if top = ".." then ".." :: stack else rest
  else name :: stack

/-- The shortest form of a path. -/
def clean (path : String) : String :=
  let rooted := isAbsolute path
  let parts := ((names path).foldl (push rooted) []).reverse
  if rooted then "/" ++ ofNames parts
  else if parts.isEmpty then "." else ofNames parts

/-- The path of a name inside a directory, in its shortest form. -/
def join (directory name : String) : String :=
  match directory, name with
  | "", "" => ""
  | "", name => clean name
  | directory, "" => clean directory
  | directory, name => clean (directory ++ "/" ++ name)

/-- A path from the root: one that is not absolute is taken from the working
directory. -/
def absolute (workingDirectory path : String) : String :=
  if isAbsolute path then path else join workingDirectory path

/-- The paths of a list with colons between them. -/
def splitList (list : String) : List String :=
  (splitOnChar ':' list.toList).map String.ofList

end TagScript.Files
