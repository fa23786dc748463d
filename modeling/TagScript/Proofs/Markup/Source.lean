import TagScript.Markup.Source

/-!
# `TagScript.Proofs.Markup.Source`: templates from markup have no unknown nodes

A template may have positions that hold a node without meaning, or none at all. They are there
for trees that an application builds itself. `Node.known` says that a node is not of this kind
and has no such node below it, at any depth. Every control tag and every output element that
is read from markup is known if its body is, so a template that is read from markup is known
throughout (`Source.ofTrees_known`).
-/

set_option autoImplicit false

namespace TagScript

open Markup

mutual

/-- Whether a node has a meaning, and so has every node below it. -/
def Node.known : Node → Bool
  | .value _ => true
  | .comment body => Node.knownAll body
  | .define _ _ body => Node.knownAll body
  | .letIn _ body => Node.knownAll body
  | .cond body => Node.knownAll body
  | .ifThen _ body => Node.knownAll body
  | .orElse body => Node.knownAll body
  | .forEach _ _ body => Node.knownAll body
  | .call _ _ => true
  | .element _ _ body => Node.knownAll body
  | .foreign _ => false
  | .missing => false

/-- Whether all nodes of a list are known. -/
def Node.knownAll : List Node → Bool
  | [] => true
  | n :: rest => n.known && Node.knownAll rest

end

namespace Node

/-- Nodes are known when each of them is. -/
theorem knownAll_iff (nodes : List Node) : knownAll nodes = true ↔ ∀ n ∈ nodes, n.known = true := by
  induction nodes with
  | nil => simp [knownAll]
  | cons n rest ih => simp [knownAll, ih]

/-- The nodes below a known node are known. -/
theorem known_of_mem_children {n c : Node} (h : n.known = true) (hc : c ∈ n.children) :
    c.known = true := by
  cases n with
  | value _ | call _ _ | foreign _ | missing => cases hc
  | comment body | define _ _ body | letIn _ body | cond body | ifThen _ body | orElse body
  | forEach _ _ body | element _ _ body =>
      rw [known, knownAll_iff] at h
      exact h c hc

end Node

namespace Source

/-- An element is converted after its children. -/
theorem convert_element (tag space : String) (attributes : List HtmlAttribute)
    (children : List Html) :
    convert (.element tag space attributes children)
      = (convertAll children).bind fun body => (element tag attributes body).map some := by
  rw [convert]
  cases convertAll children with
  | error fault => rfl
  | ok body => cases hnode : element tag attributes body <;> simp [Except.bind, hnode, Except.map]

/-- The first tree that cannot be converted stops the conversion of trees. -/
theorem convertAll_cons (tree : Html) (rest : List Html) :
    convertAll (tree :: rest)
      = (convert tree).bind fun node => (convertAll rest).map (node.toList ++ ·) := by
  rw [convertAll]
  cases convert tree with
  | error fault => rfl
  | ok node => cases convertAll rest <;> rfl

/-- The node of an element is known if the nodes of its children are. -/
theorem element_known {tag : String} {attributes : List HtmlAttribute} {body : List Node}
    {n : Node} (hbody : Node.knownAll body = true) (h : element tag attributes body = .ok n) :
    n.known = true := by
  unfold element at h
  dsimp only at h
  -- One case for each control tag, and in it one for the attributes that the tag asks for.
  repeat' split at h
  all_goals cases h
  all_goals first
    | exact hbody
    | rfl

mutual

/-- The node of a tree of markup is known. -/
theorem convert_known : (tree : Html) → {n : Node} → convert tree = .ok (some n) →
    n.known = true
  | .text _, _, h => by
      simp only [convert] at h
      cases h
      rfl
  | .comment, _, h => by
      simp only [convert] at h
      cases h
  | .element tag _ attributes children, n, h => by
      simp only [convert] at h
      cases hbody : convertAll children with
      | error fault => simp [hbody] at h
      | ok body =>
          simp only [hbody] at h
          cases hnode : element tag attributes body with
          | error fault => simp [hnode] at h
          | ok node =>
              simp only [hnode] at h
              cases h
              exact element_known (convertAll_known children hbody) hnode

/-- The nodes of trees of markup are known. -/
theorem convertAll_known : (trees : List Html) → {nodes : List Node} →
    convertAll trees = .ok nodes → Node.knownAll nodes = true
  | [], _, h => by
      simp only [convertAll] at h
      cases h
      rfl
  | tree :: rest, nodes, h => by
      simp only [convertAll] at h
      cases htree : convert tree with
      | error fault => simp [htree] at h
      | ok node =>
          simp only [htree] at h
          cases hrest : convertAll rest with
          | error fault => simp [hrest] at h
          | ok others =>
              simp only [hrest] at h
              cases h
              have hothers := convertAll_known rest hrest
              -- A comment has become no node.
              cases node with
              | none => exact hothers
              | some n =>
                  rw [Option.toList_some, List.singleton_append, Node.knownAll,
                    convert_known tree htree, hothers]
                  rfl

end

/-- A template that is read from markup is known, whatever the trees of markup are. -/
theorem ofTrees_known {trees : List Html} {nodes : List Node} (h : ofTrees trees = .ok nodes) :
    ∀ n ∈ nodes, n.known = true :=
  (Node.knownAll_iff nodes).mp (convertAll_known (topLevel trees) h)

end Source

end TagScript
