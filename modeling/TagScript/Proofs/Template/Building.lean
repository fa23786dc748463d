import Mathlib.Data.List.Forall2
import TagScript.Proofs.Markup.Names

/-!
# `TagScript.Proofs.Template.Building`: templates are built as they are read

A node can be built from the texts of its attributes, or read from an element of markup. The two
tell the names of attributes from their values in different ways. A text is divided at its first
equals sign, the first character aside. In a tag the name ends where `attributeName` says, and the
value may hold any characters.

* `Literal.ofAttributeText_name`, `Literal.ofAttributeText_pair`: for a name that a tag can give to
  an attribute (`WellNamed`), the text of the attribute has the literal that the attribute has,
  whatever the value is.
* `Build.Makes`: which function makes the node of a control tag.
* `Source.element_of_makes`: this is the node that the tag is read as.
* `Source.convert_makes`: all of it, and that the attributes of every fragment are well named.
-/

set_option autoImplicit false

namespace TagScript

open Markup Text

/-! ### Literals of attribute texts -/

namespace Literal

/-- Without an equals sign there is nothing to split. -/
theorem splitEquals?_of_notMem {cs : List Char} (h : '=' ∉ cs) : splitEquals? cs = none := by
  have hdrop : cs.dropWhile (· ≠ '=') = [] := by
    rw [List.dropWhile_eq_nil_iff]
    intro c hc
    exact decide_eq_true (ne_of_mem_of_not_mem hc h)
  rw [splitEquals?, hdrop]

/-- A text is split at its first equals sign. -/
theorem splitEquals?_append {name : List Char} (h : '=' ∉ name) (value : List Char) :
    splitEquals? (name ++ '=' :: value) = some (name, value) := by
  have hname : ∀ c ∈ name, decide (c ≠ '=') = true := fun c hc =>
    decide_eq_true (ne_of_mem_of_not_mem hc h)
  have hdrop : (name ++ '=' :: value).dropWhile (· ≠ '=') = '=' :: value := by
    rw [List.dropWhile_append_of_pos hname, List.dropWhile_cons_of_neg (by simp)]
  have htake : (name ++ '=' :: value).takeWhile (· ≠ '=') = name := by
    rw [List.takeWhile_append_of_pos hname, List.takeWhile_cons_of_neg (by simp),
      List.append_nil]
  rw [splitEquals?, hdrop]
  dsimp only
  rw [htake]

variable {name : String}

/-- The characters of a well-named attribute: only the first may be an equals sign. -/
theorem exists_toList (h : WellNamed name) :
    ∃ c cs, name = String.ofList (c :: cs) ∧ '=' ∉ cs := by
  obtain ⟨hne, hequals⟩ := h
  cases hname : name.toList with
  | nil => exact absurd (String.toList_eq_nil_iff.mp hname) hne
  | cons c cs =>
    rw [hname] at hequals
    exact ⟨c, cs, by rw [← hname, String.ofList_toList], hequals⟩

/-- An attribute without a value is written as its name. -/
theorem ofAttributeText_name (h : WellNamed name) :
    ofAttributeText name = ofAttribute name "" := by
  obtain ⟨c, cs, rfl, hcs⟩ := exists_toList h
  rw [ofAttributeText, String.toList_ofList]
  dsimp only
  rw [splitEquals?_of_notMem hcs]
  rfl

/-- An attribute is written as its name, an equals sign and its value, which may be empty. -/
theorem ofAttributeText_pair (h : WellNamed name) (value : String) :
    ofAttributeText (name ++ "=" ++ value) = ofAttribute name value := by
  obtain ⟨c, cs, rfl, hcs⟩ := exists_toList h
  have htext : (String.ofList (c :: cs) ++ "=" ++ value).toList
      = c :: (cs ++ '=' :: value.toList) := by simp
  rw [ofAttributeText, htext]
  dsimp only
  rw [splitEquals?_append hcs]
  dsimp only
  rw [String.ofList_toList]

end Literal

/-- A text is the name and the value of an attribute. Without a value it may be the name alone. -/
def Markup.HtmlAttribute.Spelled (a : HtmlAttribute) (text : String) : Prop :=
  text = a.name ++ "=" ++ a.value ∨ a.value = "" ∧ text = a.name

/-- The text of an attribute stands for the literal that the attribute does. -/
theorem Literal.ofAttributeText_of_spelled {a : HtmlAttribute} {text : String}
    (hname : WellNamed a.name) (htext : a.Spelled text) :
    ofAttributeText text = ofAttribute a.name a.value := by
  rcases htext with rfl | ⟨hvalue, rfl⟩
  · exact ofAttributeText_pair hname a.value
  · rw [hvalue]
    exact ofAttributeText_name hname

/-! ### Nodes of attribute texts -/

/-- The node that is made for a control tag, by its name in capital letters, from the texts of its
attributes. A loop leaves out its second attribute, and a value all behind its first. -/
inductive Build.Makes (body : List Node) : String → List String → Node → Prop where
  | define (name : String) (params : List String) :
      Makes body "DEFN" (name :: params) (Build.define name params body)
  | letIn (bindings : List String) : Makes body "LET" bindings (Build.letIn bindings body)
  | ifThen (condition : String) : Makes body "IF" [condition] (Build.ifThen condition body)
  | forEach (name word sequence : String) :
      Makes body "FOR" [name, word, sequence] (Build.forEach name sequence body)
  | call (function : String) (args : List String) :
      Makes body "DO" (function :: args) (Build.call function args)
  | value (source : String) (others : List String) :
      Makes body "V" (source :: others) (Build.value source)

namespace Source

variable {tag space : String} {attributes : List HtmlAttribute} {texts : List String}
  {body : List Node} {node : Node}

/-- So the texts of attributes stand for the literals that the attributes do, in order. -/
theorem literalsOf_eq_literals (hnames : ∀ a ∈ attributes, WellNamed a.name)
    (htexts : List.Forall₂ HtmlAttribute.Spelled attributes texts) :
    literalsOf attributes = Build.literals texts := by
  induction htexts with
  | nil => rfl
  | cons htext _ ih =>
    obtain ⟨hname, hnames⟩ := List.forall_mem_cons.mp hnames
    have hliteral := Literal.ofAttributeText_of_spelled hname htext
    rw [literalsOf, Build.literals, List.map_cons, List.map_cons, hliteral]
    exact congrArg _ (ih hnames)

/-- A control tag is read as the node that is made from the texts of its attributes. -/
theorem element_of_makes (hnames : ∀ a ∈ attributes, WellNamed a.name)
    (htexts : List.Forall₂ HtmlAttribute.Spelled attributes texts)
    (hmakes : Build.Makes body (upper tag) texts node) :
    element tag attributes body = .ok node := by
  have hliterals := literalsOf_eq_literals hnames htexts
  unfold element
  rw [hliterals]
  generalize upper tag = name at hmakes ⊢
  cases hmakes <;> rfl

/-- **What is built is what is read.** The text of an attribute has the literal of the attribute if
the name can be that of an attribute in a tag, with any value. So an element that is a definition,
a scope, a call, a value, a branch with one condition or a loop with three attributes is read as
the node that is built from the texts of its attributes and the nodes of its children. All
attributes in a fragment have such names. -/
theorem convert_makes :
    (∀ name value : String, WellNamed name →
      Literal.ofAttributeText name = Literal.ofAttribute name "" ∧
      Literal.ofAttributeText (name ++ "=") = Literal.ofAttribute name "" ∧
      (value ≠ "" →
        Literal.ofAttributeText (name ++ "=" ++ value) = Literal.ofAttribute name value)) ∧
    (∀ (tag space : String) (attributes : List HtmlAttribute) (children : List Html)
      (texts : List String) (body : List Node) (node : Node),
      (∀ a ∈ attributes, WellNamed a.name) →
      List.Forall₂ HtmlAttribute.Spelled attributes texts →
      convertAll children = .ok body → Build.Makes body (upper tag) texts node →
      convert (.element tag space attributes children) = .ok (some node)) ∧
    (∀ (source : String) (trees : List Html), parseFragment? source = some trees →
      ∀ tag ∈ startTagsAll trees, ∀ a ∈ tag.attributes, WellNamed a.name) := by
  refine ⟨?_, ?_, ?_⟩
  · intro name value hname
    refine ⟨Literal.ofAttributeText_name hname, ?_, fun _ => Literal.ofAttributeText_pair hname _⟩
    have hpair := Literal.ofAttributeText_pair hname ""
    rwa [String.append_empty] at hpair
  · intro tag space attributes children texts body node hnames htexts hbody hmakes
    rw [convert_element, hbody]
    show (element tag attributes body).map some = .ok (some node)
    rw [element_of_makes hnames htexts hmakes]
    rfl
  · intro source trees hsource
    exact parseFragment?_wellNamed hsource

/-- A name may begin with an equals sign, and a value may hold some. -/
theorem convert_makes_equals :
    ∃ trees, parseFragment? "<v =a=b=c>" = some trees ∧
      startTagsAll trees = [⟨"v", [⟨"", "=a", "b=c"⟩]⟩] ∧ WellNamed "=a" ∧
      Literal.ofAttributeText "=a=b=c" = Literal.ofAttribute "=a" "b=c" ∧
      convert (.element "v" "" [⟨"", "=a", "b=c"⟩] []) = .ok (some (Build.value "=a=b=c")) := by
  obtain ⟨hliterals, hconvert, hfragment⟩ := convert_makes
  have htoken : nextToken? ("<v =a=b=c>".toList.length + 1) none false "<v =a=b=c>".toList
      = some (.startTag "v" [("=a", "b=c")] false, []) := by decide +kernel
  have hsource := parseFragment?_token htoken
  rw [if_neg (by decide +kernel)] at hsource
  generalize htrees : (Builder.initial.take false
    (.startTag "v" [("=a", "b=c")] false)).forest.trees Builder.rootId = trees at hsource
  have htags : startTagsAll trees = [⟨"v", [⟨"", "=a", "b=c"⟩]⟩] := by
    rw [← htrees]
    decide +kernel
  have hname : WellNamed "=a" :=
    hfragment _ trees hsource ⟨"v", [⟨"", "=a", "b=c"⟩]⟩ (by rw [htags]; exact List.mem_cons_self)
      ⟨"", "=a", "b=c"⟩ List.mem_cons_self
  refine ⟨trees, hsource, htags, hname, (hliterals "=a" "b=c" hname).2.2 (by decide), ?_⟩
  refine hconvert "v" "" [⟨"", "=a", "b=c"⟩] [] ["=a=b=c"] [] _ (by simpa using hname) ?_ rfl ?_
  · exact .cons (.inl rfl) .nil
  · exact .value "=a=b=c" []

end Source

end TagScript
