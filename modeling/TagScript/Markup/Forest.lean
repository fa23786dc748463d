import TagScript.Markup.Html
import TagScript.Eval.Sink

/-!
# `TagScript.Markup.Forest`: markup under construction

While markup is built, its nodes live in a store by number. Each knows its parent
and its children; nodes are created apart and linked later.

* `Forest.link`, `Forest.detach`: change the place of a node.
* `Forest.tree`: the finished tree below a node.
* `Sink.html`: the sink that builds output markup. A node that already has a
  parent is not appended again.
-/

set_option autoImplicit false

namespace TagScript.Markup

/-- What a node is. -/
inductive Content where
  /-- The root of a fragment. -/
  | fragment
  | element (tag space : String) (attributes : List HtmlAttribute)
  | text (s : String)
  | comment
deriving Repr, DecidableEq, Inhabited

/-- A node of the store. -/
structure Slot where
  content : Content
  parent : Option Nat
  children : Array Nat
  /-- The attributes that were given to a node that is no element. They are never shown. -/
  idle : List HtmlAttribute
deriving Inhabited

/-- A store of nodes. -/
structure Forest where
  slots : Array Slot
deriving Inhabited

namespace Forest

/-- A store without nodes. -/
def empty : Forest := ⟨#[]⟩

/-- The number of nodes, which is the number of the next one. -/
def size (f : Forest) : Nat := f.slots.size

/-- A new node, and its number. -/
def create (f : Forest) (content : Content) : Nat × Forest :=
  (f.slots.size, ⟨f.slots.push ⟨content, none, #[], []⟩⟩)

/-- What a node is; a number that is not in use is an empty fragment. -/
def contentOf (f : Forest) (i : Nat) : Content :=
  match f.slots[i]? with
  | some s => s.content
  | none => .fragment

/-- The parent of a node. -/
def parentOf (f : Forest) (i : Nat) : Option Nat :=
  (f.slots[i]?).bind (·.parent)

/-- The children of a node. -/
def childrenOf (f : Forest) (i : Nat) : Array Nat :=
  match f.slots[i]? with
  | some s => s.children
  | none => #[]

/-- Change what a node is. -/
def setContent (f : Forest) (i : Nat) (g : Content → Content) : Forest :=
  ⟨f.slots.modify i fun s => { s with content := g s.content }⟩

/-- Make a node the last child of another. -/
def link (f : Forest) (parent child : Nat) : Forest :=
  ⟨(f.slots.modify parent fun s => { s with children := s.children.push child }).modify child
    fun s => { s with parent := some parent }⟩

/-- Create a node as the last child of another. -/
def add (f : Forest) (parent : Nat) (content : Content) : Forest :=
  let (child, f) := f.create content
  f.link parent child

/-- Take a node away from its parent. -/
def detach (f : Forest) (i : Nat) : Forest :=
  match f.parentOf i with
  | none => f
  | some p =>
    ⟨(f.slots.modify p fun s => { s with children := s.children.filter (· != i) }).modify i
      fun s => { s with parent := none }⟩

/-- Append a node to a parent, unless it has one already or either is unknown. -/
def append (f : Forest) (parent child : Nat) : Forest :=
  if parent < f.slots.size ∧ child < f.slots.size ∧ (f.parentOf child).isNone then
    f.link parent child
  else f

/-- Give an attribute a value, at its place if it is there already. -/
def assign (attributes : List HtmlAttribute) (name value : String) : List HtmlAttribute :=
  match attributes with
  | [] => [⟨"", name, value⟩]
  | a :: rest =>
    if a.name = name then { a with value } :: rest else a :: assign rest name value

/-- Give a node's attribute a value. -/
def setAttribute (f : Forest) (i : Nat) (name value : String) : Forest :=
  ⟨f.slots.modify i fun s =>
    match s.content with
    | .element tag space attributes =>
      { s with content := .element tag space (assign attributes name value) }
    | _ => { s with idle := assign s.idle name value }⟩

/-- The tree below a node, which is at most `fuel` levels high. -/
def treeWithin (f : Forest) : Nat → Nat → Html
  | 0, _ => .comment
  | fuel + 1, i =>
    match f.contentOf i with
    | .fragment => .comment
    | .text s => .text s
    | .comment => .comment
    | .element tag space attributes =>
      .element tag space attributes ((f.childrenOf i).toList.map (treeWithin f fuel))

/-- The finished tree below a node. No path in a tree is longer than the store. -/
def tree (f : Forest) (i : Nat) : Html :=
  f.treeWithin (f.slots.size + 1) i

/-- The finished trees below the children of a node. -/
def trees (f : Forest) (i : Nat) : List Html :=
  (f.childrenOf i).toList.map f.tree

end Forest

end TagScript.Markup

namespace TagScript

open Markup

/-- The sink that builds markup in a store of nodes. -/
def Sink.html : Sink Forest where
  element tag f :=
    let (i, f) := f.create (.element tag "" [])
    (some i, f)
  setAttribute node name value f :=
    match node with
    | none => f
    | some i => f.setAttribute i name value
  text s f :=
    let (i, f) := f.create (.text s)
    (some i, f)
  append parent child f :=
    match parent, child with
    | some p, some c => f.append p c
    | _, _ => f

end TagScript
