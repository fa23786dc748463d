import TagScript.Template.Printer

/-!
# `TagScript.Proofs.Template.Reading`: a template read back from its structured form

`templateDocument` writes each node as a map. All kinds of node share the keys of these maps, an
empty part is left out, and the literals of a node stand in one list whatever they are for. The
module defines the reader that undoes this and proves that nothing is lost.

* `Literal.ofDocument?`: the literal position that a document describes.
* `Node.parts` / `Node.Parts.node?`: a node in the parts that its map has, and back.
* `Node.ofDocument?`: the node that a document describes. The map is read by its keys, not by
  the order of its entries.
* `Node.OfLanguage`: the nodes that this is about. A kind that the evaluator does not know is
  written without its name, and a literal of the embedding application as if it were a text, so
  these two cannot be told apart from what they look like.
* `templateDocument_faithful`: a template of the language is read back as it was, and two of
  them that are written alike are the same.
-/

set_option autoImplicit false

namespace TagScript

/-! ### Literals -/

namespace Literal

/-- Whether a literal is one of the language, with no literal of the embedding application in it. -/
def ofLanguage : Literal → Bool
  | .custom _ => false
  | .binding _ (some value) => value.ofLanguage
  | _ => true

/-- The literal position that a document describes. -/
def ofDocument? : Document → Option (Option Literal)
  | .null => some none
  | .number x => some (some (.number x))
  | .bool b => some (some (.bool b))
  | .text s => some (some (.text s))
  | .map [("var", .text name)] => some (some (.var name))
  | .map [("name", .text name), ("value", value)] =>
    (ofDocument? value).map fun l => some (.binding name l)
  | _ => none

/-- A literal of the language is read back from its document. -/
theorem ofDocument?_toDocument (l : Literal) (h : l.ofLanguage = true) :
    ofDocument? l.toDocument = some (some l) := by
  match l with
  | .number _ | .text _ | .bool _ | .var _ => simp [toDocument, ofDocument?]
  | .custom _ => cases h
  | .binding _ none => simp [toDocument, ofDocument?]
  | .binding name (some value) =>
      have ih := ofDocument?_toDocument value h
      simp [toDocument, ofDocument?, ih]

end Literal

/-- Literal positions are read back one by one. -/
theorem mapM_ofDocument?_literalDocument (literals : List (Option Literal))
    (h : ∀ l, some l ∈ literals → l.ofLanguage = true) :
    (literals.map literalDocument).mapM Literal.ofDocument? = some literals := by
  induction literals with
  | nil => rfl
  | cons position literals ih =>
      have hrest := ih fun l hl => h l (List.mem_cons_of_mem _ hl)
      have hposition : Literal.ofDocument? (literalDocument position) = some position := by
        cases position with
        | none => rfl
        | some l => exact Literal.ofDocument?_toDocument l (h l List.mem_cons_self)
      simp [hposition, hrest]

/-! ### Attributes -/

/-- The attribute that a document describes. -/
def Attribute.ofDocument? : Document → Option Attribute
  | .map [("name", .text name), ("value", .text value)] => some ⟨name, value⟩
  | _ => none

/-- Attributes are read back from theirs. -/
theorem mapM_ofDocument?_attributes (attributes : List Attribute) :
    (attributes.map Attribute.toDocument).mapM Attribute.ofDocument? = some attributes := by
  induction attributes with
  | nil => rfl
  | cons a attributes ih => simp [Attribute.toDocument, Attribute.ofDocument?, ih]

/-! ### Nodes in parts -/

namespace Node

/-- What the map of a node tells about it. -/
structure Parts where
  kind : String
  /-- The tag of an output element. -/
  tag : Option String
  attributes : List Attribute
  literals : List (Option Literal)
  body : List Node

/-- The tag of a node that is an output element. -/
def tag? : Node → Option String
  | .element tag _ _ => some tag
  | _ => none

/-- The raw attributes of a node. -/
def attributes : Node → List Attribute
  | .element _ attributes _ => attributes
  | _ => []

/-- A node in parts. -/
def parts (n : Node) : Parts :=
  ⟨n.kindName, n.tag?, n.attributes, n.literals, n.children⟩

/-- The node that has these parts. Each kind divides the literals in its own way, and takes only
the parts that it has. -/
def Parts.node? (p : Parts) : Option Node :=
  match p.kind, p.literals, p.body with
  | "Value", [literal], [] => some (.value literal)
  | "Comment", [], body => some (.comment body)
  | "Define", name :: params, body => some (.define name params body)
  | "Let", bindings, body => some (.letIn bindings body)
  | "Cond", [], body => some (.cond body)
  | "If", conditions, body => some (.ifThen conditions body)
  | "Else", [], body => some (.orElse body)
  | "For", [name, sequence], body => some (.forEach name sequence body)
  | "Call", function :: args, [] => some (.call function args)
  | "Element", [], body => p.tag.map fun tag => .element tag p.attributes body
  | _, _, _ => none

/-- No two nodes of kinds that the evaluator knows have the same parts. -/
theorem node?_parts (n : Node) (h : n.kindName ≠ "Unknown") : n.parts.node? = some n := by
  cases n with
  | foreign _ | missing => exact absurd rfl h
  | value _ | comment _ | define _ _ _ | letIn _ _ | cond _ | ifThen _ _ | orElse _
  | forEach _ _ _ | call _ _ | element _ _ _ => rfl

/-! ### Entries of a map -/

/-- The text of a key. -/
def textOf? (key : String) (entries : List (String × Document)) : Option String :=
  match entries.lookup key with
  | some (.text s) => some s
  | _ => none

/-- The items of a key. Without the key there are none. -/
def itemsOf? (key : String) (entries : List (String × Document)) : Option (List Document) :=
  match entries.lookup key with
  | none => some []
  | some (.list items) => some items
  | some _ => none

mutual

/-- The node that a document describes. -/
def ofDocument? : Document → Option Node
  | .map entries => do
    let kind ← textOf? "kind" entries
    let attributes ← (← itemsOf? "attrs" entries).mapM Attribute.ofDocument?
    let literals ← (← itemsOf? "args" entries).mapM Literal.ofDocument?
    let body ← bodyOf? entries
    Parts.node? ⟨kind, textOf? "tag" entries, attributes, literals, body⟩
  | _ => none

/-- The nodes of the first entry that is a body. Without one there are none. -/
def bodyOf? : List (String × Document) → Option (List Node)
  | [] => some []
  | (key, d) :: rest =>
    if key = "body" then
      match d with
      | .list items => ofDocuments? items
      | _ => none
    else bodyOf? rest

/-- The nodes that documents describe. -/
def ofDocuments? : List Document → Option (List Node)
  | [] => some []
  | d :: rest => do return (← ofDocument? d) :: (← ofDocuments? rest)

end

section

variable {key other : String} {items : List Document} {entries : List (String × Document)}

/-- An entry under another key does not matter. -/
theorem lookup_cons_of_ne (hne : key ≠ other) (d : Document) :
    ((other, d) :: entries).lookup key = entries.lookup key := by
  have hother : (key == other) = false := by simpa using hne
  rw [List.lookup_cons, hother]

/-- Items of another key do not matter. -/
theorem lookup_entryOf_append (hne : key ≠ other) :
    (entryOf other items ++ entries).lookup key = entries.lookup key := by
  cases items with
  | nil => rfl
  | cons d items => exact lookup_cons_of_ne hne _

/-- An entry that is left out for having no items reads as having none. -/
theorem itemsOf?_entryOf_append (hnone : entries.lookup key = none) :
    itemsOf? key (entryOf key items ++ entries) = some items := by
  cases items <;> simp [entryOf, itemsOf?, hnone]

end

/-- The body is read from the first entry that is one. -/
theorem bodyOf?_eq (entries : List (String × Document)) :
    bodyOf? entries = (itemsOf? "body" entries).bind ofDocuments? := by
  induction entries with
  | nil => simp [bodyOf?, itemsOf?, ofDocuments?]
  | cons entry entries ih =>
      obtain ⟨key, d⟩ := entry
      unfold bodyOf?
      by_cases hkey : key = "body"
      · subst hkey
        cases d <;> simp [itemsOf?]
      · rw [if_neg hkey, ih, itemsOf?, itemsOf?, lookup_cons_of_ne (Ne.symm hkey)]

/-! ### Reading back -/

/-- The entries of a node's map that are always there for its kind. -/
def closing (n : Node) : List (String × Document) :=
  ("kind", .text n.kindName) :: (n.tag?.map fun tag => ("tag", Document.text tag)).toList

/-- These entries are under two keys only. -/
theorem lookup_closing {key : String} (n : Node) (hkind : key ≠ "kind") (htag : key ≠ "tag") :
    n.closing.lookup key = none := by
  rw [closing, lookup_cons_of_ne hkind]
  cases n.tag? with
  | none => rfl
  | some tag => exact lookup_cons_of_ne htag _

/-- Of these entries the tag is that of the node, if it has one. -/
theorem textOf?_tag_closing (n : Node) : textOf? "tag" n.closing = n.tag? := by
  rw [textOf?, closing, lookup_cons_of_ne (by decide)]
  cases n.tag? <;> rfl

/-- The entries of a node's map. Only an element has attributes and a tag, and an element has no
literals, so that the entries stand in one order for all kinds. -/
theorem describe_eq (n : Node) (body : List Document) :
    n.describe body = .map (entryOf "args" (n.literals.map literalDocument) ++
      (entryOf "attrs" (n.attributes.map Attribute.toDocument) ++
        (entryOf "body" body ++ n.closing))) := by
  cases n <;> simp [describe, entryOf, literals, attributes, tag?, closing]

/-- The map of a node has the parts of the node under their keys. -/
theorem ofDocument?_describe (n : Node) (body : List Document)
    (h : ∀ l, some l ∈ n.literals → l.ofLanguage = true) :
    ofDocument? (n.describe body) = (ofDocuments? body).bind fun children =>
      { n.parts with body := children }.node? := by
  rw [describe_eq, ofDocument?]
  generalize hall : entryOf "args" (n.literals.map literalDocument) ++ _ = entries
  -- Under each key the entries in front are passed over, since theirs are other keys.
  have hkind : textOf? "kind" entries = some n.kindName := by
    rw [← hall, textOf?, lookup_entryOf_append (by decide), lookup_entryOf_append (by decide),
      lookup_entryOf_append (by decide)]
    rfl
  have htag : textOf? "tag" entries = n.tag? := by
    rw [← hall, textOf?, lookup_entryOf_append (by decide), lookup_entryOf_append (by decide),
      lookup_entryOf_append (by decide)]
    exact n.textOf?_tag_closing
  have hargs : itemsOf? "args" entries = some (n.literals.map literalDocument) := by
    rw [← hall]
    apply itemsOf?_entryOf_append
    rw [lookup_entryOf_append (by decide), lookup_entryOf_append (by decide)]
    exact n.lookup_closing (by decide) (by decide)
  have hattrs : itemsOf? "attrs" entries = some (n.attributes.map Attribute.toDocument) := by
    rw [← hall, itemsOf?, lookup_entryOf_append (by decide)]
    apply itemsOf?_entryOf_append
    rw [lookup_entryOf_append (by decide)]
    exact n.lookup_closing (by decide) (by decide)
  have hbody : itemsOf? "body" entries = some body := by
    rw [← hall, itemsOf?, lookup_entryOf_append (by decide), lookup_entryOf_append (by decide)]
    exact itemsOf?_entryOf_append (n.lookup_closing (by decide) (by decide))
  simp only [hkind, htag, hargs, hattrs, bodyOf?_eq, hbody, mapM_ofDocument?_literalDocument _ h,
    mapM_ofDocument?_attributes, Option.bind_eq_bind, Option.bind_some, parts]

/-- A node is written from its own parts and the documents of its body. -/
theorem toDocument_eq (n : Node) : n.toDocument = n.describe (toDocuments n.children) := by
  cases n <;> rfl

/-- Nodes that are read back one by one are read back together. -/
theorem ofDocuments?_toDocuments {nodes : List Node}
    (h : ∀ n ∈ nodes, ofDocument? n.toDocument = some n) :
    ofDocuments? (toDocuments nodes) = some nodes := by
  induction nodes with
  | nil => rfl
  | cons n nodes ih =>
      obtain ⟨hn, hrest⟩ := List.forall_mem_cons.mp h
      simp [toDocuments, ofDocuments?, hn, ih hrest]

/-- A node of one of the kinds of the language, with such nodes below it, and with no literal of
the embedding application anywhere. -/
inductive OfLanguage : Node → Prop
  | intro {n : Node} (kind : n.kindName ≠ "Unknown")
      (literals : ∀ l, some l ∈ n.literals → l.ofLanguage = true)
      (children : ∀ c ∈ n.children, OfLanguage c) : OfLanguage n

/-- A node of the language is read back as it was. -/
theorem OfLanguage.ofDocument?_toDocument {n : Node} (h : n.OfLanguage) :
    ofDocument? n.toDocument = some n := by
  induction h with
  | intro kind literals _ ih =>
      rw [toDocument_eq, ofDocument?_describe _ _ literals, ofDocuments?_toDocuments ih]
      exact node?_parts _ kind

end Node

/-- The template that a document describes. -/
def ofTemplateDocument? : Document → Option (List Node)
  | .list items => Node.ofDocuments? items
  | _ => none

/-- A template of the language is read back from its document. -/
theorem ofTemplateDocument?_templateDocument {nodes : List Node} (h : ∀ n ∈ nodes, n.OfLanguage) :
    ofTemplateDocument? (templateDocument nodes) = some nodes :=
  Node.ofDocuments?_toDocuments fun n hn => (h n hn).ofDocument?_toDocument

/-- **The structured form loses nothing.** A template of the language is read back from it as it
was. So two templates of the language that have the same structured form are the same. -/
theorem templateDocument_faithful {nodes others : List Node} (h : ∀ n ∈ nodes, n.OfLanguage)
    (hothers : ∀ n ∈ others, n.OfLanguage) :
    ofTemplateDocument? (templateDocument nodes) = some nodes ∧
      (templateDocument nodes = templateDocument others → nodes = others) := by
  have hread := ofTemplateDocument?_templateDocument h
  refine ⟨hread, fun heq => ?_⟩
  rw [heq, ofTemplateDocument?_templateDocument hothers] at hread
  exact (Option.some.inj hread).symm

/-- The definition of a function of one parameter with a value for a body. -/
def oneValue (body : Literal) : Node :=
  .define (some (.text "f")) [some (.binding "n" none), none] [.value (some body)]

/-- It is of the language when its body is. -/
theorem ofLanguage_oneValue {body : Literal} (h : body.ofLanguage = true) :
    (oneValue body).OfLanguage := by
  have hvalue : (Node.value (some body)).OfLanguage :=
    .intro (by simp [Node.kindName]) (by simpa [Node.literals] using h) (by simp [Node.children])
  refine .intro (by simp [oneValue, Node.kindName]) ?_ (by simpa [oneValue, Node.children])
  simp [oneValue, Node.literals, Literal.ofLanguage]

/-- A variable in a body is told from a text that is written like it. -/
theorem templateDocument_faithful_variable :
    let byName := [oneValue (.var "n")]
    let byText := [oneValue (.text "$n")]
    (∀ n ∈ byName, n.OfLanguage) ∧ (∀ n ∈ byText, n.OfLanguage) ∧
      ofTemplateDocument? (templateDocument byName) = some byName ∧
      templateDocument byName ≠ templateDocument byText := by
  intro byName byText
  have hvariable : ∀ n ∈ byName, n.OfLanguage :=
    List.forall_mem_singleton.mpr (ofLanguage_oneValue rfl)
  have htext : ∀ n ∈ byText, n.OfLanguage :=
    List.forall_mem_singleton.mpr (ofLanguage_oneValue rfl)
  obtain ⟨hread, hinj⟩ := templateDocument_faithful hvariable htext
  refine ⟨hvariable, htext, hread, fun heq => ?_⟩
  have hsame : byName = byText := hinj heq
  simp [byName, byText, oneValue] at hsame

end TagScript
