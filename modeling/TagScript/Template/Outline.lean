import TagScript.Template
import TagScript.Failure
import TagScript.Text.Writer

/-!
# `TagScript.Template.Outline`: the tree of a template, one node to a line

The outline gives each node a line with its kind and its literals or attributes,
and indents the nodes nested in it. It is written in pieces, so that a writer
which is full leaves the pieces before.

* `outline`: the pieces for a list of nodes.
* `printOutline`: the pieces offered to a writer.
-/

set_option autoImplicit false

namespace TagScript

open Text

namespace Outline

/-- The characters for which a text is put between quotes. -/
def quotedChars : List Char :=
  [' ', '\t', '\r', '\n', '"', '\'', '=']

/-- A text between quotes when it is empty or holds blanks, quotes or an equals
sign. Only double quotes inside are escaped. -/
def quote (s : String) : String :=
  if s = "" ∨ s.toList.any quotedChars.contains then
    "\"" ++ String.ofList (s.toList.flatMap fun c => if c = '"' then ['\\', '"'] else [c]) ++ "\""
  else s

/-- A literal with the name of its kind. -/
def describe : Literal → String
  | l@(.number _) => "Number(" ++ quote l.source ++ ")"
  | l@(.text _) => "String(" ++ quote l.source ++ ")"
  | l@(.bool _) => "Bool(" ++ quote l.source ++ ")"
  | l@(.var _) => "Var(" ++ quote l.source ++ ")"
  | l@(.custom _) => "Literal(" ++ quote l.source ++ ")"
  | .binding name none => "Binding(" ++ name ++ "=(nil))"
  | .binding name (some value) => "Binding(" ++ name ++ "=" ++ describe value ++ ")"

/-- A literal position; an empty one is shown as such. -/
def describe? : Option Literal → String
  | none => "(nil)"
  | some l => describe l

/-- The pieces of a node's own line. Nothing is known about a node that is not
there: its piece is absent. -/
def line (margin : String) (n : Node) : List (Option String) :=
  match n with
  | .missing => [none]
  | .element tag attributes _ =>
    some (margin ++ n.kindName ++ ": <" ++ tag ++ ">") ::
      (attributes.map fun a => some (" " ++ a.name ++ "=" ++ quote a.value)) ++ [some "\n"]
  | n =>
    let literals := n.literals.map fun l => some (" " ++ describe? l)
    some (margin ++ n.kindName) :: (if literals.isEmpty then [] else some ":" :: literals) ++
      [some "\n"]

mutual

/-- The pieces for a node and the nodes nested in it. -/
def node (margin : String) : Node → List (Option String)
  | n@(.comment body) => line margin n ++ nodes (margin ++ "  ") body
  | n@(.define _ _ body) => line margin n ++ nodes (margin ++ "  ") body
  | n@(.letIn _ body) => line margin n ++ nodes (margin ++ "  ") body
  | n@(.cond body) => line margin n ++ nodes (margin ++ "  ") body
  | n@(.ifThen _ body) => line margin n ++ nodes (margin ++ "  ") body
  | n@(.orElse body) => line margin n ++ nodes (margin ++ "  ") body
  | n@(.forEach _ _ body) => line margin n ++ nodes (margin ++ "  ") body
  | n@(.element _ _ body) => line margin n ++ nodes (margin ++ "  ") body
  | n => line margin n

/-- The pieces for nodes in order. -/
def nodes (margin : String) : List Node → List (Option String)
  | [] => []
  | n :: rest => node margin n ++ nodes margin rest

end

/-- The message of an outline that meets a node which is not there. -/
def absentMessage : String :=
  "runtime error: invalid memory address or nil pointer dereference"

/-- Offer pieces to a writer up to the first that is absent or refused. -/
def offerAll : List (Option String) → Writer → Option Failure × Writer
  | [], w => (none, w)
  | none :: _, w => (some (.ofText absentMessage), w)
  | some piece :: rest, w =>
    match w.offer piece with
    | (true, w) => offerAll rest w
    | (false, w) => (some (.ofText fullMessage), w)

end Outline

/-- The pieces of the outline of a template. -/
def outline (nodes : List Node) : List (Option String) :=
  Outline.nodes "" nodes

/-- Write the outline of a template. -/
def printOutline (nodes : List Node) (w : Writer) : Option Failure × Writer :=
  Outline.offerAll (outline nodes) w

end TagScript
