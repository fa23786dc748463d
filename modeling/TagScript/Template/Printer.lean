import TagScript.Document.Json
import TagScript.Document.JsonLayout
import TagScript.Document.Yaml.Writer
import TagScript.Template.Outline

/-!
# `TagScript.Template.Printer`: templates for other programs

A template can be written as structured data: each node is a map with its kind,
and where it has them its tag, attributes, literals and body.

* `Node.toDocument`: a node as structured data.
* `printTemplate`: a template in one of the three output forms.
-/

set_option autoImplicit false

namespace TagScript

open Text

/-- A literal as structured data. A variable and a binding are maps. -/
def Literal.toDocument : Literal → Document
  | .number x => .number x
  | .bool b => .bool b
  | .text s => .text s
  | .custom s => .text s
  | .var name => .map [("var", .text name)]
  | .binding name none => .map [("name", .text name), ("value", .null)]
  | .binding name (some value) => .map [("name", .text name), ("value", value.toDocument)]

/-- A literal position as structured data. -/
def literalDocument : Option Literal → Document
  | none => .null
  | some l => l.toDocument

/-- An attribute as structured data. -/
def Attribute.toDocument (a : Attribute) : Document :=
  .map [("name", .text a.name), ("value", .text a.value)]

namespace Node

/-- An entry for a list, unless the list is empty. -/
def entryOf (key : String) (items : List Document) : List (String × Document) :=
  if items.isEmpty then [] else [(key, .list items)]

/-- The map of a node, given the documents of its body. Keys are in order. -/
def describe (n : Node) (body : List Document) : Document :=
  let args := entryOf "args" (n.literals.map literalDocument)
  let body := entryOf "body" body
  let kind := [("kind", Document.text n.kindName)]
  match n with
  | .element tag attributes _ =>
    .map (entryOf "attrs" (attributes.map Attribute.toDocument) ++ body ++ kind ++ [("tag", .text tag)])
  | _ => .map (args ++ body ++ kind)

mutual

/-- A node as structured data. -/
def toDocument : Node → Document
  | n@(.comment body) => n.describe (toDocuments body)
  | n@(.define _ _ body) => n.describe (toDocuments body)
  | n@(.letIn _ body) => n.describe (toDocuments body)
  | n@(.cond body) => n.describe (toDocuments body)
  | n@(.ifThen _ body) => n.describe (toDocuments body)
  | n@(.orElse body) => n.describe (toDocuments body)
  | n@(.forEach _ _ body) => n.describe (toDocuments body)
  | n@(.element _ _ body) => n.describe (toDocuments body)
  | n => n.describe []

/-- Nodes as structured data. -/
def toDocuments : List Node → List Document
  | [] => []
  | n :: rest => toDocument n :: toDocuments rest

end

end Node

/-- A template as structured data. -/
def templateDocument (nodes : List Node) : Document :=
  .list (Node.toDocuments nodes)

/-- JSON text, over several lines when it is indented. -/
def Document.toIndentedJson (indent : Int) (d : Document) : Except Json.Unsupported String :=
  match d.toJson Json.embedded with
  | .error u => .error u
  | .ok compact =>
    if 0 < indent then .ok ((Json.indent? (Yaml.blanks indent.toNat) compact).getD compact)
    else .ok compact

/-- The output forms of a template. -/
inductive PrintForm where
  | tree | json | yaml
deriving Repr, DecidableEq, Inhabited

/-- The name of an output form. -/
def PrintForm.name : PrintForm → String
  | .tree => "tree"
  | .json => "json"
  | .yaml => "yaml"

/-- Offer a whole text to a writer. -/
def offerText (text : String) (w : Writer) : Option Failure × Writer :=
  match w.offer text with
  | (true, w) => (none, w)
  | (false, w) => (some (.ofText fullMessage), w)

/-- Write a template in an output form. -/
def printTemplate (form : PrintForm) (indent : Int) (nodes : List Node) (w : Writer) :
    Option Failure × Writer :=
  match form with
  | .tree => printOutline nodes w
  | .json =>
    match (templateDocument nodes).toIndentedJson indent with
    | .error u => (some (.ofText u.message), w)
    | .ok text => offerText (text ++ "\n") w
  | .yaml => offerText ((templateDocument nodes).toYaml (Yaml.Style.ofIndent indent)) w

end TagScript
