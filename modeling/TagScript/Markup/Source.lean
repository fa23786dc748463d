import TagScript.Failure
import TagScript.Markup.Construction
import TagScript.Template
import TagScript.Text.Blank
import TagScript.Text.Case

/-!
# `TagScript.Markup.Source`: templates written as markup

A template is a fragment of markup. Elements with the name of a control tag
become control nodes, whose attributes are literals; every other element and all
text stay output. Comments are left out, and so is text of nothing but white
space at the top level. A `template` element that is all there is at the top
level stands for its content.

* `Source.convert`: one tree of markup, after its children.
* `parseTemplate`: the template that a text holds.
-/

set_option autoImplicit false

namespace TagScript

open Markup Text

/-- Why a text holds no template. -/
inductive SourceFault where
  /-- Too many elements are open at once. -/
  | tooDeep
  /-- A control tag has too few attributes. -/
  | malformed (tag : String) (want got : Nat)
deriving Repr, DecidableEq, Inhabited

/-- The error that a caller sees. -/
def SourceFault.toFailure : SourceFault → Failure
  | .tooDeep => (Failure.known .parse).wrap (.made 0) (some (.ofText overflowMessage))
  | .malformed tag want got =>
    .because .malformedTag
      [("tag", .text tag), ("want", .integer want), ("got", .integer got)]

namespace Source

/-- Whether a tree is text of nothing but white space. -/
def isBlankText : Html → Bool
  | .text s => allBlank s
  | _ => false

/-- Trees without the texts of white space among them. -/
def dropBlankTexts (trees : List Html) : List Html :=
  trees.filter fun t => !isBlankText t

/-- The top level of a template. -/
def topLevel (trees : List Html) : List Html :=
  match dropBlankTexts trees with
  | [.element "template" _ _ children] => dropBlankTexts children
  | top => top

/-- The literals of a tag's attributes. -/
def literalsOf (attributes : List HtmlAttribute) : List (Option Literal) :=
  attributes.map fun a => some (Literal.ofAttribute a.name a.value)

/-- An element that is not a control tag. -/
def outputElement (tag : String) (attributes : List HtmlAttribute) (body : List Node) : Node :=
  .element tag (attributes.map fun a => ⟨a.fullName, a.value⟩) body

/-- The node of an element, given those of its children. -/
def element (tag : String) (attributes : List HtmlAttribute) (body : List Node) :
    Except SourceFault Node :=
  let literals := literalsOf attributes
  let name := upper tag
  let short (want : Nat) : Except SourceFault Node := .error (.malformed name want literals.length)
  match name with
  | "DEFN" =>
    match literals with
    | f :: params => .ok (.define f params body)
    | _ => short 1
  | "LET" => .ok (.letIn literals body)
  | "COND" => .ok (.cond body)
  | "IF" => if literals.isEmpty then short 1 else .ok (.ifThen literals body)
  | "ELSE" => .ok (.orElse body)
  | "FOR" =>
    match literals with
    | variable_ :: _ :: sequence :: _ => .ok (.forEach variable_ sequence body)
    | _ => short 3
  | "DO" =>
    match literals with
    | f :: args => .ok (.call f args)
    | _ => short 1
  | "NB" => .ok (.comment body)
  | "V" =>
    match literals with
    | literal :: _ => .ok (.value literal)
    | _ => short 1
  | _ => .ok (outputElement tag attributes body)

mutual

/-- The node of a tree of markup; a comment has none. -/
def convert : Html → Except SourceFault (Option Node)
  | .text s => .ok (some (.value (some (.text s))))
  | .comment => .ok none
  | .element tag _ attributes children =>
    match convertAll children with
    | .error fault => .error fault
    | .ok body =>
      match element tag attributes body with
      | .error fault => .error fault
      | .ok node => .ok (some node)

/-- The nodes of trees of markup in order. -/
def convertAll : List Html → Except SourceFault (List Node)
  | [] => .ok []
  | tree :: rest =>
    match convert tree with
    | .error fault => .error fault
    | .ok node =>
      match convertAll rest with
      | .error fault => .error fault
      | .ok nodes => .ok (node.toList ++ nodes)

end

/-- The template that trees of markup stand for. -/
def ofTrees (trees : List Html) : Except SourceFault (List Node) :=
  convertAll (topLevel trees)

end Source

/-- The template that a text holds. -/
def parseTemplate (source : String) : Except SourceFault (List Node) :=
  match parseFragment? source with
  | none => .error .tooDeep
  | some trees => Source.ofTrees trees

end TagScript
