/-!
# `TagScript.Text.Writer`: output that may be refused

Output is offered to a writer in pieces. A writer with a capacity accepts a piece
only as a whole: one that does not fit is refused, and what was accepted before
it stays.

* `Writer.offer`: offer one piece.
-/

set_option autoImplicit false

namespace TagScript.Text

/-- What a writer has accepted, and how many bytes it accepts in all. -/
structure Writer where
  capacity : Option Nat
  accepted : String
deriving Repr, DecidableEq, Inhabited

/-- The message of a writer that refuses a piece. -/
def fullMessage : String := "writer is full"

namespace Writer

/-- A writer that has accepted nothing yet. -/
def empty (capacity : Option Nat) : Writer := ⟨capacity, ""⟩

/-- Whether a piece fits. -/
def fits (w : Writer) (piece : String) : Bool :=
  match w.capacity with
  | none => true
  | some n => w.accepted.utf8ByteSize + piece.utf8ByteSize ≤ n

/-- Offer a piece: whether it was accepted, and the writer afterwards. -/
def offer (w : Writer) (piece : String) : Bool × Writer :=
  if w.fits piece then (true, { w with accepted := w.accepted ++ piece }) else (false, w)

end Writer

end TagScript.Text
