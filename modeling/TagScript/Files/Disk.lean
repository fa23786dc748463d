import TagScript.Files.Path

/-!
# `TagScript.Files.Disk`: what a path leads to

Commands ask one question about files: what does this path lead to? The answer
tells apart the directories and files by an identity that is the same however a
file was reached.

A disk is one way to answer: a tree below the working directory, with links that
are followed on the way. All its files can be opened.

* `Access`: the answers to all paths.
* `Disk.look`: the answer of a disk.
-/

set_option autoImplicit false

namespace TagScript.Files

/-- What a path leads to. -/
inductive Lookup where
  /-- Nothing, for a reason. -/
  | failed (reason : String)
  | directory (identity : String)
  | file (identity content : String)
  /-- A file that cannot be opened, for a reason. -/
  | closed (reason : String)
deriving Repr, DecidableEq, Inhabited

/-- Where relative paths begin, and what every path leads to. -/
structure Access where
  workingDirectory : String
  look : String → Lookup

namespace Lookup

/-- Whether there is something at all. -/
def found : Lookup → Bool
  | .failed _ => false
  | _ => true

/-- Whether it is a directory. -/
def isDirectory : Lookup → Bool
  | .directory _ => true
  | _ => false

/-- Whether it is something else than a directory. -/
def isFile : Lookup → Bool
  | .file _ _ | .closed _ => true
  | _ => false

end Lookup

/-- Reasons for which a path leads to nothing. -/
def missing : Lookup := .failed "no such file or directory"
def notDirectory : Lookup := .failed "not a directory"
def tooManyLinks : Lookup := .failed "too many levels of symbolic links"

/-- What stands at a place of a disk. -/
inductive Entry where
  | directory
  | file (content : String)
  | link (target : String)
deriving Repr, DecidableEq, Inhabited

/-- The entries below the working directory, by their names from there. -/
structure Disk where
  workingDirectory : String
  entries : List (List String × Entry)
deriving Repr, Inhabited

namespace Disk

/-- The entry at a place. What has entries below it is a directory. -/
def entry? (d : Disk) (place : List String) : Option Entry :=
  if place.isEmpty then some .directory
  else
    match d.entries.find? fun e => e.1 = place with
    | some e => some e.2
    | none =>
      if d.entries.any fun e => place.isPrefixOf e.1 then some .directory else none

/-- The names from the working directory to an absolute path, if it is below it. -/
def below? (d : Disk) (path : String) : Option (List String) :=
  let base := names d.workingDirectory
  let parts := names path
  if base.isPrefixOf parts then some (parts.drop base.length) else none

/-- Follow names from a place, through at most `fuel` names and links. -/
def walk (d : Disk) : Nat → List String → List String → Lookup
  | 0, _, _ => tooManyLinks
  | fuel + 1, place, parts =>
    match d.entry? place with
    | none => missing
    | some (.link target) =>
      if target = "" then missing
      else if isAbsolute target then
        match d.below? target with
        | none => missing
        | some inside => walk d fuel [] (inside ++ parts)
      else walk d fuel place.dropLast (names target ++ parts)
    | some (.file content) =>
      if parts.isEmpty then .file (ofNames place) content else notDirectory
    | some .directory =>
      match parts with
      | [] => .directory (ofNames place)
      | name :: rest =>
        if name = "" || name = "." then walk d fuel place rest
        else if name = ".." then
          if place.isEmpty then missing else walk d fuel place.dropLast rest
        else walk d fuel (place ++ [name]) rest

/-- How many names and links a lookup goes through at most. -/
def walkLimit (path : String) : Nat := path.length + 2000

/-- What a path leads to. -/
def look (d : Disk) (path : String) : Lookup :=
  if path = "" then missing
  else if isAbsolute path then
    match d.below? path with
    | none => missing
    | some inside => d.walk (walkLimit path) [] inside
  else d.walk (walkLimit path) [] (names path)

/-- The answers of a disk. -/
def files (d : Disk) : Access := ⟨d.workingDirectory, d.look⟩

end Disk

end TagScript.Files
