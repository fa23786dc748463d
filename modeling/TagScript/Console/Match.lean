import TagScript.Text.Case

/-!
# `TagScript.Console.Match`: ranking of completions

A pattern matches a candidate when its characters occur in it in order, in any
case. Each character of the pattern takes the best place before the next one
occurs, and a candidate is the better the more of its matches stand at its start,
at the start of a word, or next to each other.

* `Scan.step`: one character of a candidate.
* `rank`: the candidates that match, the best first; of equal ones, the later
  first.
-/

set_option autoImplicit false

namespace TagScript.Console

open Text

/-- A candidate that matches, and at which bytes. -/
structure Match where
  text : String
  indexes : List Nat
  score : Int
deriving Repr, DecidableEq, Inhabited

/-- A candidate that is offered without a pattern. -/
def Match.ofText (text : String) : Match := ⟨text, [], 0⟩

/-- Characters after which a word begins. -/
def isSeparator (c : Char) : Bool :=
  c == '/' || c == '-' || c == '_' || c == ' ' || c == '.' || c == '\\'

/-- The state of matching after some characters of a candidate. -/
structure Scan where
  /-- The rest of the pattern. -/
  pattern : List Char
  /-- The score and the place of the best match of the pattern's first character. -/
  best : Option (Nat × Nat)
  /-- What the next match beside another one builds upon. -/
  adjacent : Nat
  /-- The character before, and where it is. -/
  last : Option Char
  lastIndex : Nat
  /-- The places that were taken, the last one first. -/
  taken : List Nat
  score : Int
deriving Repr, DecidableEq, Inhabited

namespace Scan

/-- The state before the first character. -/
def start (pattern : List Char) : Scan := ⟨pattern, none, 0, none, 0, [], 0⟩

/-- The bonus of a match right behind the match before. -/
def adjacency (s : Scan) : Nat :=
  match s.taken with
  | [] => 0
  | place :: _ => if place = s.lastIndex then 2 * s.adjacent + 5 else 0

/-- The score of a match at a place. -/
def placeScore (s : Scan) (index : Nat) (c : Char) : Nat :=
  (if index = 0 then 10 else 0) +
  (match s.last with
    | none => 0
    | some l =>
      (if isSmall l && isCapital c then 20 else 0) +
      (if index ≠ 0 && isSeparator l then 20 else 0)) +
  s.adjacency

/-- Note a place where the pattern's first character occurs. -/
def note (s : Scan) (index : Nat) (c : Char) : Scan :=
  let score := s.placeScore index c
  { s with
    adjacent := s.adjacent + s.adjacency
    best := match s.best with
      | some (old, place) => if old < score then some (score, index) else some (old, place)
      | none => some (score, index) }

/-- What the first match loses for the characters before it. -/
def lead (index : Nat) : Int := max (-5 * index) (-15)

/-- Take the best place that was noted, if there is one. -/
def take (s : Scan) : Scan :=
  match s.best with
  | none => s
  | some (score, place) =>
    { s with
      pattern := s.pattern.tail
      best := none
      taken := place :: s.taken
      score := s.score + score + (if s.taken.isEmpty then lead place else 0) }

/-- Whether the search for the pattern's first character ends before the next
character: the candidate ends, or the pattern's next character comes up. -/
def ends (s : Scan) (next : Option Char) : Bool :=
  match next, s.pattern.tail with
  | none, _ => true
  | some c, p :: _ => sameLetter c p
  | some _, [] => false

/-- The state after one more character. -/
def step (s : Scan) (index : Nat) (c : Char) (next : Option Char) : Scan :=
  let noted := match s.pattern with
    | p :: _ => if sameLetter c p then s.note index c else s
    | [] => s
  let taken := if noted.ends next then noted.take else noted
  { taken with last := some c, lastIndex := index }

/-- The state after all characters from a byte position on. -/
def run (s : Scan) : Nat → List Char → Scan
  | _, [] => s
  | index, c :: rest => run (s.step index c rest.head?) (index + c.utf8Size) rest

end Scan

/-- The match of a pattern in a candidate. -/
def match? (pattern candidate : String) : Option Match :=
  let s := (Scan.start pattern.toList).run 0 candidate.toList
  if s.taken.length = pattern.length then
    some ⟨candidate, s.taken.reverse, s.score + s.taken.length - candidate.utf8ByteSize⟩
  else none

/-- The candidates that match a pattern, the best first and of equal ones the
later first. -/
def rank (pattern : String) (candidates : List String) : List Match :=
  (candidates.filterMap (match? pattern)).reverse.mergeSort fun a b => b.score ≤ a.score

/-- The candidates to offer for a word: all of them when it is empty. -/
def offers (word : String) (candidates : List String) : List Match :=
  if word = "" then candidates.map Match.ofText else rank word candidates

end TagScript.Console
