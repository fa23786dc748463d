import TagScript.Console.History
import TagScript.Markup.Source

/-!
# `TagScript.Console.Editing`: composing a fragment in an editor

An external editor is run on a scratch text. If what it leaves does not hold a
template, the user is asked whether to edit again, and the editor is run on the
same text.

The answers come from standard input, which delivers text in reads of any size.
Each prompt reads until it has a whole line, and whatever the same read delivered
behind that line is lost.

* `readLine?`: one prompt's line.
* `editLoop`: the loop, until a text is accepted, the user declines or the editor
  fails.
-/

set_option autoImplicit false

namespace TagScript.Console

open Text

/-- What one run of an editor does. -/
structure EditorRun where
  /-- What it shows on standard output. -/
  shown : String
  /-- The text that it leaves. -/
  content : String
  /-- Its exit status; zero is success. -/
  status : Nat
deriving Repr, DecidableEq, Inhabited

/-- An editor: what its run of a number does with a text. -/
abbrev Editor := Nat → String → EditorRun

/-- How an edit ends. -/
inductive EditOutcome where
  /-- A text that holds a template, or is blank. -/
  | accepted
  | declined
  /-- The editor ended with a status other than zero. -/
  | failed (status : Nat)
  /-- The console was cancelled before the editor could run. -/
  | canceled
deriving Repr, DecidableEq, Inhabited

/-- The error that a caller sees, if there is one. -/
def EditOutcome.failure? : EditOutcome → Option Failure
  | .accepted => none
  | .declined => some (.known .editDeclined)
  | .failed status => some (.ofText ("exit status " ++ toString status))
  | .canceled => some (.known .canceled)

/-- The state of an edit, and what it showed. -/
structure Edit where
  /-- The text, without blanks around it, as of the last run. -/
  source : String
  stdout : String
  stderr : String
deriving Repr, DecidableEq, Inhabited

/-- The line that a prompt reads, and the reads that are left. What was read
before and holds no line end is `pending`. A line that is too long is none. -/
def readLineFrom? (pending : List Char) : List String → Option (String × List String)
  | [] =>
    if pending.isEmpty then none else finish pending []
  | read :: rest =>
    let all := pending ++ read.toList
    if all.contains '\n' then finish (all.takeWhile (· ≠ '\n')) rest
    else readLineFrom? all rest
where
  /-- A line, unless it is too long. -/
  finish (line : List Char) (rest : List String) : Option (String × List String) :=
    let text := String.ofList line
    if lineLimit ≤ text.utf8ByteSize then none else some (text, rest)

/-- The line that a prompt reads, and the reads that are left. -/
def readLine? (reads : List String) : Option (String × List String) :=
  readLineFrom? [] reads

/-- Whether an answer declines. -/
def declines (answer : String) : Bool :=
  let a := lower (trimBlank answer)
  a = "n" || a = "no"

/-- The question after a text that does not hold a template. -/
def question : String := "Re-edit? [Y/n] "

/-- Run the editor on a text as its run `n` and go on from there, with at most
`fuel` prompts. -/
def editRounds (editor : Editor) :
    Nat → Nat → List String → String → Edit → EditOutcome × Edit
  | 0, _, _, _, e => (.declined, e)
  | fuel + 1, n, reads, content, e =>
    let run := editor n content
    let e := { e with stdout := e.stdout ++ run.shown }
    if run.status ≠ 0 then (.failed run.status, e)
    else
      let e := { e with source := trimBlank run.content }
      if e.source = "" then (.accepted, e)
      else
        match parseTemplate e.source with
        | .ok _ => (.accepted, e)
        | .error fault =>
          let e := { e with
            stderr := e.stderr ++ "\nParse error: " ++ fault.toFailure.message ++ "\n"
            stdout := e.stdout ++ question }
          match readLine? reads with
          | none => (.declined, e)
          | some (answer, rest) =>
            if declines answer then (.declined, e)
            else editRounds editor fuel (n + 1) rest run.content e

/-- Edit a text. Each answered prompt uses up a read at least, so that there are
never more prompts than reads and one. -/
def editLoop (editor : Editor) (canceled : Bool) (reads : List String) (source : String) :
    EditOutcome × Edit :=
  if canceled then (.canceled, ⟨source, "", ""⟩)
  else editRounds editor (reads.length + 1) 0 reads source ⟨source, "", ""⟩

end TagScript.Console
