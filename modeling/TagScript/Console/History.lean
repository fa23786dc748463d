import TagScript.Failure
import TagScript.Text.Blank
import TagScript.Text.Lines

/-!
# `TagScript.Console.History`: the lines that were submitted

The history lists the submitted lines, the oldest first, each of them once: a
line that is submitted again moves to the end. It is kept in a file with one line
for each entry. A new entry is appended to the file; the file is written anew
only when an entry moves.

* `History.load`: read the file.
* `History.add`: submit a line.
* `History.entry`: an entry by number.
-/

set_option autoImplicit false

namespace TagScript.Console

open Text

/-- Where a history is kept. -/
inductive Storage where
  /-- Nowhere beyond the session. -/
  | memory
  /-- A file, by its content if it exists. -/
  | file (content : Option String)
  /-- A file that cannot be opened, with the reason. -/
  | unreachable (reason : String)
deriving Repr, DecidableEq, Inhabited

/-- The entries, and where they are kept. -/
structure History where
  entries : List String
  storage : Storage
deriving Repr, DecidableEq, Inhabited

/-- The length in bytes from which on a line cannot be read. -/
def lineLimit : Nat := 65536

/-- The message about a line that cannot be read. -/
def lineTooLong : String := "bufio.Scanner: token too long"

/-- The lines that can be read before one that is too long, and whether there is
such a line. -/
def readableLines : List String → List String × Bool
  | [] => ([], false)
  | line :: rest =>
    if lineLimit ≤ line.utf8ByteSize then ([], true)
    else
      let (more, stopped) := readableLines rest
      (line :: more, stopped)

/-- The entries in the text of a history file, and whether a line was too long to
go on. -/
def entriesOf (content : String) : List String × Bool :=
  let (readable, stopped) := readableLines (lines content)
  ((readable.map trimBlank).filter (· ≠ ""), stopped)

namespace History

/-- A history that was not read from its file yet. -/
def new (storage : Storage) : History := ⟨[], storage⟩

/-- Replace the entries by those of the file. A file that does not exist holds
none. -/
def load (h : History) : History × Option Failure :=
  match h.storage with
  | .memory | .file none => ({ h with entries := [] }, none)
  | .unreachable reason => ({ h with entries := [] }, some (.ofText reason))
  | .file (some content) =>
    let (entries, stopped) := entriesOf content
    ({ h with entries }, if stopped then some (.ofText lineTooLong) else none)

/-- The text of a file with the given entries. -/
def contentOf (entries : List String) : String :=
  "".intercalate (entries.map (· ++ "\n"))

/-- What becomes of the file when an entry is added: with `moved`, the entry was
there before. -/
def save (storage : Storage) (entries : List String) (line : String) (moved : Bool) :
    Storage × Option Failure :=
  match storage with
  | .memory => (.memory, none)
  | .unreachable reason => (.unreachable reason, some (.ofText reason))
  | .file content =>
    if moved then (.file (some (contentOf entries)), none)
    else (.file (some (content.getD "" ++ line ++ "\n")), none)

/-- Submit a line. A blank one is no entry, and one equal to the newest entry
changes nothing. -/
def add (h : History) (text : String) : History × Option Failure :=
  let line := trimBlank text
  if line = "" || h.entries.getLast? = some line then (h, none)
  else
    let moved := h.entries.contains line
    let entries := h.entries.erase line ++ [line]
    let (storage, failure) := save h.storage entries line moved
    (⟨entries, storage⟩, failure)

/-- The entry of a number. -/
def entry (h : History) (i : Int) : Except Failure String :=
  match if i < 0 then none else h.entries[i.toNat]? with
  | some line => .ok line
  | none => .error (.known .outOfBounds)

/-- How many entries there are. -/
def size (h : History) : Nat := h.entries.length

/-- A new history in the same place. -/
def reopen (h : History) : History := new h.storage

end History

end TagScript.Console
