import TagScript.Console.Completion
import TagScript.Console.Editing
import TagScript.Console.Field
import TagScript.Text.Blank

/-!
# `TagScript.Console.Screen`: what the console does with a key

The screen holds the line being typed, the completions of the word at its cursor,
and the place in the history that is shown. A message changes it and may have
effects: lines to print above it, an editor to run, an end.

The field counts its cursor in characters, while words are found by byte
positions; the cursor's number is taken for a byte position as it stands.

* `Screen.update`: one message.
* `Screen.cycle`: a step through the completions.
* `Screen.hint`: the line below the one being typed.
-/

set_option autoImplicit false

namespace TagScript.Console

open Text

/-- A run through the completions of a word. -/
structure Cycle where
  /-- The number of the completion that is shown. -/
  selected : Nat
  /-- The line and its cursor before the run. -/
  text : List Char
  cursor : Nat
deriving Repr, DecidableEq, Inhabited

/-- The keys, and what a terminal passes on like a key. -/
inductive Key where
  | enter | tab | shiftTab | up | down | esc | ctrlC | ctrlD
  /-- Any other key but those that are letters. Most of them edit the field. -/
  | editing (key : EditKey)
  /-- A letter together with Alt that edits the field, as those do that go by words. -/
  | altEditing (key : EditKey)
  | typed (c : Char)
  /-- A text that the terminal pastes. A letter together with Alt that does not edit the field
  is put in like a text of this one letter. -/
  | pasted (text : String)
deriving Repr, DecidableEq, Inhabited

/-- The key of a name, for the keys that have one. -/
def Key.ofName? : String → Option Key
  | "enter" => some .enter
  | "tab" => some .tab
  | "shift+tab" => some .shiftTab
  | "up" => some .up
  | "down" => some .down
  | "esc" => some .esc
  | "ctrl+c" => some .ctrlC
  | "ctrl+d" => some .ctrlD
  | "left" => some (.editing .left)
  | "right" => some (.editing .right)
  | "home" => some (.editing .home)
  | "end" => some (.editing .finish)
  | "backspace" => some (.editing .backspace)
  | "delete" => some (.editing .delete)
  | "ctrl+u" => some (.editing .deleteBefore)
  | "ctrl+k" => some (.editing .deleteAfter)
  | _ => none

/-- What can happen to a screen. -/
inductive Message where
  | key (k : Key)
  | resize (width : Int)
  /-- The editor left a text that holds a template. -/
  | edited (source : String)
  /-- The editor left a blank text. -/
  | editCancelled
  /-- The user declined to edit again. -/
  | editDeclined
  | editFailed (reason : String)
  /-- Anything else that changes nothing, such as the blinking of the cursor. The field can ask for
  the text of the clipboard and put it in when it comes. It does so by itself, and this is left
  out: all text that is pasted here comes from the terminal. -/
  | other
deriving Repr, DecidableEq, Inhabited

/-- What a message makes happen. -/
inductive Effect where
  | print (text : String)
  | quit
  | clear
  /-- Run the editor on an empty text. -/
  | edit
deriving Repr, DecidableEq, Inhabited

/-- The state of the console. -/
structure Screen where
  palette : Palette
  session : Session
  history : History
  field : Field
  /-- The completions of the word at the cursor, the best first. -/
  matched : List Match
  /-- The byte positions of that word. -/
  wordStart : Nat
  wordEnd : Nat
  cycling : Option Cycle
  /-- The number of the history entry that is shown; that of a new line is one more
  than the last. -/
  historyIndex : Nat
  width : Int
  quitting : Bool

/-- The columns of a terminal that did not tell. -/
def defaultWidth : Int := 80

/-- What stands in front of a line that was submitted. -/
def promptText : String := "➜ "

/-- The text that explains the console. -/
def helpText : String :=
  "\nEach line is a template fragment evaluated in one persistent environment.\n" ++
  "Functions and root variables defined on one line are visible on the next.\n\n" ++
  "  <defn sq n><do push $n></do><do push $n></do><do mul></do></defn>\n" ++
  "  <do sq 7></do><do pop></do>\n\n" ++
  "Commands:\n\n" ++
  "  :help    Print this text\n" ++
  "  :funcs   List defined functions\n" ++
  "  :stack   Show the root operand stack\n" ++
  "  :reset   Discard all definitions and stack values\n" ++
  "  :edit    Compose a multi-line fragment in $EDITOR\n" ++
  "  :clear   Clear screen\n" ++
  "  :quit    Exit\n\n" ++
  "Keys:\n\n" ++
  "  Tab / Shift-Tab  Cycle completions (tags after \"<\", functions after \"<do \")\n" ++
  "  Space            Accept the current completion\n" ++
  "  Up / Down        Navigate history\n" ++
  "  Ctrl+C           Clear the line, or exit on an empty line\n" ++
  "  Ctrl+D           Exit on an empty line\n"

namespace Screen

/-- The screen at the start. -/
def start (palette : Palette) (session : Session) (history : History) : Screen where
  palette := palette
  session := session
  history := history
  field := .empty
  matched := []
  wordStart := 0
  wordEnd := 0
  cycling := none
  historyIndex := history.size
  width := defaultWidth
  quitting := false

/-! ### Completions -/

/-- The screen with the given text in its field. -/
def setValue (s : Screen) (cs : List Char) : Screen :=
  { s with field := s.field.setValue cs }

/-- Compute the completions of the word at the cursor anew. -/
def refresh (s : Screen) : Screen :=
  let input := s.field.bytes
  let (start, stop) := wordBounds input s.field.cursor
  { s with
    matched := offers (ofOctets (slice input start stop))
      (candidates s.session.functions input start)
    wordStart := start
    wordEnd := stop }

/-- The word between the word bounds. -/
def word (s : Screen) : String :=
  ofOctets (slice s.field.bytes s.wordStart s.wordEnd)

/-- Compute the completions anew, and accept the word if it is the only one of
them. -/
def refreshAndAccept (s : Screen) : Screen :=
  let s := s.refresh
  match s.matched with
  | [m] => if s.word = m.text then { s with cycling := none, matched := [] } else s
  | _ => s

/-- Put a text in the place of the word, and the cursor behind it. -/
def replaceWord (s : Screen) (text : String) : Screen :=
  let input := s.field.bytes
  let cursor := s.wordStart + text.utf8ByteSize
  let value := decode (input.take s.wordStart ++ octets text ++ input.drop s.wordEnd)
  { s with field := (s.field.setValue value).setCursor cursor, wordEnd := cursor }

/-- The number of the completion after the one shown, or before it. -/
def nextIndex (forward : Bool) (count selected : Nat) : Nat :=
  if forward then (selected + 1) % count else (selected + count - 1) % count

/-- The run through the completions after one more step. -/
def nextCycle (s : Screen) (forward : Bool) : Cycle :=
  let count := s.matched.length
  match s.cycling with
  | some c => { c with selected := nextIndex forward count c.selected }
  | none => ⟨if forward then 0 else count - 1, s.field.value, s.field.cursor⟩

/-- Show the next completion, or the one before. A single one is accepted at
once. -/
def cycle (s : Screen) (forward : Bool) : Screen :=
  match s.matched with
  | [] => s
  | [m] => { s.replaceWord m.text with cycling := none, matched := [] }
  | _ =>
    let c := s.nextCycle forward
    { s with cycling := some c }.replaceWord ((s.matched[c.selected]?.map Match.text).getD "")

/-! ### The history -/

/-- Show the next entry of the history, or the one before. Beyond the newest is an
empty line. -/
def historyMove (s : Screen) (forward : Bool) : Screen :=
  if !forward && s.historyIndex = 0 then s
  else
    let i := if forward then s.historyIndex + 1 else s.historyIndex - 1
    match s.history.entry i with
    | .error _ => { s with historyIndex := s.history.size }.setValue [] |>.refresh
    | .ok line =>
      { s with
        historyIndex := i
        field := (s.field.setValue line.toList).setCursor line.utf8ByteSize }.refresh

/-- Leave the history. -/
def leaveHistory (s : Screen) : Screen :=
  { s with historyIndex := s.history.size }

/-- Submit a line to the history. -/
def remember (s : Screen) (line : String) : Screen :=
  { s with history := (s.history.add line).1 }.leaveHistory

/-! ### Execution -/

/-- The line that repeats what was submitted. -/
def echo (s : Screen) (input : String) : Effect :=
  .print (Ink.prompt.paint s.palette promptText ++ Ink.input.paint s.palette input)

/-- Text that is printed unless it is empty. -/
def printUnlessEmpty (s : Screen) (ink : Ink) (text : String) : List Effect :=
  if text = "" then [] else [.print (ink.paint s.palette text)]

/-- The line about an error. -/
def printError (s : Screen) (message : String) : Effect :=
  .print (Ink.error.paint s.palette ("error: " ++ message))

/-- Evaluate a fragment: what it makes printed, and the screen afterwards. -/
def evaluate (s : Screen) (source : String) : Screen × List Effect :=
  let (reply, session) := s.session.eval false source
  ({ s with session },
    s.echo source :: s.printUnlessEmpty .hint reply.diagnostics ++
      s.printUnlessEmpty .result reply.markup ++
      (reply.failure.map fun f => s.printError f.message).toList)

/-- The functions with their parameters, one on a line. -/
def functionList (s : Screen) : String :=
  "\n".intercalate (s.session.functions.map fun name =>
    let params := (s.session.signature? name).getD []
    "  " ++ name ++ Ink.hint.paint s.palette ("(" ++ ", ".intercalate params ++ ")"))

/-- Carry out a command. -/
def command (s : Screen) (input : String) : Screen × List Effect :=
  let name := (fieldsBy isBlank input.toList).headD []
  match String.ofList name with
  | ":q" | ":quit" | ":exit" => ({ s with quitting := true }, [s.echo input, .quit])
  | ":h" | ":help" => (s, [s.echo input, .print helpText])
  | ":funcs" => (s, [s.echo input, .print s.functionList])
  | ":stack" =>
    match s.session.stack with
    | [] => (s, [s.echo input, .print (Ink.hint.paint s.palette "(empty)")])
    | stack => (s, [s.echo input, .print (Ink.result.paint s.palette ("\n".intercalate stack))])
  | ":reset" =>
    ({ s with session := s.session.reset },
      [s.echo input, .print (Ink.hint.paint s.palette "environment reset")])
  | ":clear" => (s, [.clear])
  | ":edit" => (s, [s.echo input, .edit])
  | _ =>
    (s, [.print (Ink.error.paint s.palette ("unknown command: " ++ input ++ " (try :help)"))])

/-- Submit the line. -/
def execute (s : Screen) : Screen × List Effect :=
  let input := trimBlank s.field.text
  if input = "" then (s, [])
  else
    let s := { s.setValue [] with matched := [] }.remember input
    if input.toList.head? = some ':' then s.command input else s.evaluate input

/-! ### Messages -/

/-- Keys that type into the field. -/
def typeIn (s : Screen) (cs : List Char) : Screen :=
  { s.leaveHistory with field := s.field.insert cs }.refreshAndAccept

/-- What a key does. -/
def press (s : Screen) : Key → Screen × List Effect
  | .ctrlC =>
    if s.field.value.isEmpty then ({ s with quitting := true }, [.quit])
    else ({ s.setValue [] with cycling := none }.leaveHistory.refresh, [])
  | .ctrlD => if s.field.value.isEmpty then ({ s with quitting := true }, [.quit]) else (s, [])
  | .enter =>
    if s.cycling.isNone || s.matched.isEmpty then s.execute
    else ({ s with cycling := none }.refreshAndAccept, [])
  | .tab => (s.cycle true, [])
  | .shiftTab => (s.cycle false, [])
  | .up => (s.historyMove false, [])
  | .down => (s.historyMove true, [])
  | .esc =>
    match s.cycling with
    | none => (s, [])
    | some c =>
      ({ s with
        cycling := none
        field := (s.field.setValue c.text).setCursor c.cursor }.refresh, [])
  | .typed c => ((if c = ' ' then { s with cycling := none } else s).typeIn [c], [])
  | .pasted text => (s.typeIn text.toList, [])
  | .editing key =>
    ({ s.leaveHistory with cycling := none, field := s.field.edit key }.refresh, [])
  | .altEditing key =>
    ({ s.leaveHistory with field := s.field.edit key }.refreshAndAccept, [])

/-- What a message does. -/
def update (s : Screen) : Message → Screen × List Effect
  | .key k => s.press k
  | .resize width => ({ s with width }, [])
  | .edited source =>
    let line := " ".intercalate ((fieldsBy isBlank source.toList).map String.ofList)
    (s.remember line).evaluate source
  | .editCancelled => (s, [.print (Ink.hint.paint s.palette "edit cancelled")])
  | .editDeclined => (s, [.print (Ink.hint.paint s.palette "edit discarded")])
  | .editFailed reason => (s, [s.printError reason])
  | .other => (s, [])

/-- The message that an edit ends with. -/
def ofEdit (outcome : EditOutcome) (e : Edit) : Message :=
  match outcome with
  | .declined => .editDeclined
  | .failed status => .editFailed ("exit status " ++ toString status)
  | .canceled => .editFailed (Sentinel.message .canceled)
  | .accepted => if e.source = "" then .editCancelled else .edited e.source

/-- Run the editor on an empty text and take in what comes of it. -/
def runEditor (s : Screen) (editor : Editor) (reads : List String) :
    Edit × Screen × List Effect :=
  let (outcome, e) := editLoop editor false reads ""
  (e, s.update (ofEdit outcome e))

/-- Type characters one after another. -/
def typeAll (s : Screen) (cs : List Char) : Screen :=
  cs.foldl (fun s c => (s.press (.typed c)).1) s

/-! ### The view -/

/-- The line below the one being typed. -/
def hint (s : Screen) : String :=
  if s.quitting then ""
  else if s.historyIndex < s.history.size then
    Ink.hint.paint s.palette
      (Ink.emphasis.paint s.palette (toString (s.historyIndex + 1)) ++ "/" ++
        toString s.history.size)
  else if s.field.value.all isBlank then
    Ink.hint.paint s.palette "Type a template fragment, or :help"
  else if !s.matched.isEmpty then
    Row.paint s.palette (candidateBar s.palette s.matched (s.cycling.map Cycle.selected) s.width)
  else
    Row.paint s.palette (signatureHint s.session.signature? s.field.bytes s.field.cursor)

end Screen

end TagScript.Console
