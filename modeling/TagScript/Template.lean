import TagScript.Literal

/-!
# `TagScript.Template`: the tree of a template

A template is a list of nodes. Nine kinds of node are control tags, which are
evaluated; an element is copied to the output around its evaluated body; text is
a value node with a text literal.

A node position may also hold a node of a kind that the evaluator does not know,
or no node at all: both are possible in trees that an application builds itself.

* `Node.literals`, `Node.children`: the two parts that every printer walks.
* The functions of `TagScript.Build` make nodes from attribute texts.
-/

set_option autoImplicit false

namespace TagScript

/-- A raw attribute of an output element. -/
structure Attribute where
  name : String
  value : String
deriving Repr, DecidableEq, Inhabited

/-- A node of a template. -/
inductive Node where
  /-- The text of a literal. -/
  | value (literal : Option Literal)
  /-- Logs the values of its children and renders nothing. -/
  | comment (body : List Node)
  /-- Defines a function. -/
  | define (name : Option Literal) (params : List (Option Literal)) (body : List Node)
  /-- Renders its body in a scope with bindings. -/
  | letIn (bindings : List (Option Literal)) (body : List Node)
  /-- Renders the first branch that holds. -/
  | cond (body : List Node)
  /-- Renders its body when its first condition holds. -/
  | ifThen (conditions : List (Option Literal)) (body : List Node)
  /-- Renders its body. -/
  | orElse (body : List Node)
  /-- Renders its body once for each element of a sequence. -/
  | forEach (name : Option Literal) (sequence : Option Literal) (body : List Node)
  /-- Calls a function. -/
  | call (function : Option Literal) (args : List (Option Literal))
  /-- An output element. -/
  | element (tag : String) (attributes : List Attribute) (body : List Node)
  /-- A node of a kind that the evaluator does not know, by the kind's name. -/
  | foreign (type : String)
  /-- No node. -/
  | missing
deriving Inhabited

namespace Node

/-- The name of a node's kind. -/
def kindName : Node → String
  | .value _ => "Value"
  | .comment _ => "Comment"
  | .define _ _ _ => "Define"
  | .letIn _ _ => "Let"
  | .cond _ => "Cond"
  | .ifThen _ _ => "If"
  | .orElse _ => "Else"
  | .forEach _ _ _ => "For"
  | .call _ _ => "Call"
  | .element _ _ _ => "Element"
  | .foreign _ => "Unknown"
  | .missing => "Unknown"

/-- The nested nodes. -/
def children : Node → List Node
  | .comment body => body
  | .define _ _ body => body
  | .letIn _ body => body
  | .cond body => body
  | .ifThen _ body => body
  | .orElse body => body
  | .forEach _ _ body => body
  | .element _ _ body => body
  | _ => []

/-- The literals in source order. -/
def literals : Node → List (Option Literal)
  | .value literal => [literal]
  | .define name params _ => name :: params
  | .letIn bindings _ => bindings
  | .ifThen conditions _ => conditions
  | .forEach name sequence _ => [name, sequence]
  | .call function args => function :: args
  | _ => []

end Node

namespace Build

/-- Literals from attribute texts. -/
def literals (texts : List String) : List (Option Literal) :=
  texts.map fun s => some (Literal.ofAttributeText s)

/-- A value node. -/
def value (source : String) : Node :=
  .value (some (Literal.ofAttributeText source))

/-- A value node that holds text verbatim. -/
def text (s : String) : Node :=
  .value (some (.text s))

/-- A function definition. -/
def define (name : String) (params : List String) (body : List Node) : Node :=
  .define (some (Literal.ofAttributeText name)) (literals params) body

/-- A scope with bindings. -/
def letIn (bindings : List String) (body : List Node) : Node :=
  .letIn (literals bindings) body

/-- A branch with one condition. -/
def ifThen (condition : String) (body : List Node) : Node :=
  .ifThen [some (Literal.ofAttributeText condition)] body

/-- A loop. -/
def forEach (name sequence : String) (body : List Node) : Node :=
  .forEach (some (Literal.ofAttributeText name)) (some (Literal.ofAttributeText sequence)) body

/-- A function call. -/
def call (function : String) (args : List String) : Node :=
  .call (some (Literal.ofAttributeText function)) (literals args)

/-- A raw attribute from `name=value`, divided at the first equals sign. -/
def rawAttribute (s : String) : Attribute :=
  match Literal.splitEquals? s.toList with
  | none => ⟨s, ""⟩
  | some (name, value) => ⟨String.ofList name, String.ofList value⟩

/-- An output element. -/
def element (tag : String) (attributes : List String) (body : List Node) : Node :=
  .element tag (attributes.map rawAttribute) body

end Build

end TagScript
