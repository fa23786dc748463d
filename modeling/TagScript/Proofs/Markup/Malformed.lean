import TagScript.Proofs.Markup.Source

/-!
# `TagScript.Proofs.Markup.Malformed`: control tags with too few attributes

Some control tags cannot do without attributes: a definition has no name without one, a loop has
no sequence with fewer than three. Conversion reports such a tag and gives up. Which tag is
reported when there are several depends on the order in which the elements are looked at. It is
the order in which they end (`startTagsAll`): the children of an element come before the element,
and siblings from left to right. The children of a call and of a value count, although nothing
becomes of them.

`Source.ReadsAll` says what trees of markup stand for when no tag is short, without a word about
how they are converted. A text stands for itself, a comment for nothing, and an element for one
node. The node of a control tag has the kind that belongs to the name, the literals of the
attributes that the tag uses, in their order, and the nodes of the children as its body.

* `Source.convertAll_checks`: conversion finds the first tag that is short, or else the nodes.
* `Source.readsAll_unique`: there is one way to read trees of markup.
* `Source.ofTrees_checked`: both for a whole template.
-/

set_option autoImplicit false

namespace TagScript

open Markup Text

namespace Markup

/-- The name and the attributes of an element. -/
structure StartTag where
  name : String
  attributes : List HtmlAttribute
deriving Repr, DecidableEq, Inhabited

mutual

/-- The elements of a tree in the order in which they end. -/
def Html.startTags : Html → List StartTag
  | .text _ | .comment => []
  | .element tag _ attributes children => startTagsAll children ++ [⟨tag, attributes⟩]

/-- The elements of several trees in the order in which they end. -/
def startTagsAll : List Html → List StartTag
  | [] => []
  | tree :: rest => tree.startTags ++ startTagsAll rest

end

/-! ### A fragment of one token -/

/-- At the end of the source there is no token. -/
theorem nextToken?_nil (fuel : Nat) (raw : Option String) (cdata : Bool) :
    nextToken? fuel raw cdata [] = none := by
  have hplain : plainToken? fuel cdata [] = none := rfl
  cases raw with
  | none => exact hplain
  | some name =>
      have hraw : rawText fuel name [] = ([], []) := by
        unfold rawText
        split
        · rfl
        · split
          · cases fuel <;> rfl
          · rfl
      rw [nextToken?, hraw]
      exact hplain

/-- At the end of the source the trees are as they are. -/
theorem takeAll_nil (fuel : Nat) (b : Builder) (raw : Option String) :
    Builder.takeAll fuel b raw [] = b := by
  cases fuel with
  | zero => rfl
  | succ fuel => rw [Builder.takeAll, nextToken?_nil]

/-- The trees of a fragment that is one token. -/
theorem parseFragment?_token {source : String} {token : Token}
    (h : nextToken? (source.toList.length + 1) none false source.toList = some (token, [])) :
    parseFragment? source
      = if (Builder.initial.take false token).overflow then none
        else some ((Builder.initial.take false token).forest.trees Builder.rootId) := by
  have hspace : Builder.initial.spaceOf Builder.initial.current = "" := rfl
  have hforeign : Builder.initial.isForeign token = false := by
    simp only [Builder.isForeign, hspace, if_true]
  unfold parseFragment? Builder.takeAll
  simp only [hspace, bne_self_eq_false, h, hforeign, takeAll_nil]

end Markup

namespace Source

/-! ### Which tags are short -/

/-- How many attributes a tag cannot do without, by its name in capital letters. -/
def required (name : String) : Nat :=
  if name ∈ ["DEFN", "IF", "DO", "V"] then 1 else if name = "FOR" then 3 else 0

/-- Whether an element has fewer attributes than its tag cannot do without. -/
def short (tag : StartTag) : Bool :=
  tag.attributes.length < required (upper tag.name)

/-- The fault of a short tag. -/
def shortFault (tag : StartTag) : SourceFault :=
  .malformed (upper tag.name) (required (upper tag.name)) tag.attributes.length

/-! ### What markup stands for -/

/-- The kind of node that a control tag stands for, by the tag's name in capital letters. -/
def controlKinds : List (String × String) :=
  [("DEFN", "Define"), ("LET", "Let"), ("COND", "Cond"), ("IF", "If"), ("ELSE", "Else"),
    ("FOR", "For"), ("DO", "Call"), ("NB", "Comment"), ("V", "Value")]

/-- The attributes that a control tag uses. A loop has no use for the word between its variable
and its sequence. -/
def used (name : String) (attributes : List HtmlAttribute) : List HtmlAttribute :=
  if name ∈ ["DEFN", "LET", "IF", "DO"] then attributes
  else if name = "V" then attributes.take 1
  else if name = "FOR" then attributes.take 1 ++ (attributes.drop 2).take 1
  else []

/-- The node is what a control tag stands for, with the nodes of its children. -/
structure Expresses (tag : StartTag) (body : List Node) (node : Node) : Prop where
  kind : controlKinds.lookup (upper tag.name) = some node.kindName
  literals : node.literals
    = (used (upper tag.name) tag.attributes).map fun a => some (Literal.ofAttribute a.name a.value)
  children : node.children = if upper tag.name ∈ ["DO", "V"] then [] else body

mutual

/-- What a tree of markup stands for. -/
inductive Reads : Html → List Node → Prop where
  | text (s : String) : Reads (.text s) [.value (some (.text s))]
  | comment : Reads .comment []
  | control {tag space : String} {attributes : List HtmlAttribute} {children : List Html}
      {body : List Node} {node : Node} (hbody : ReadsAll children body)
      (hnode : Expresses ⟨tag, attributes⟩ body node) :
      Reads (.element tag space attributes children) [node]
  | output {tag space : String} {attributes : List HtmlAttribute} {children : List Html}
      {body : List Node} (hbody : ReadsAll children body)
      (htag : controlKinds.lookup (upper tag) = none) :
      Reads (.element tag space attributes children)
        [.element tag (attributes.map fun a => ⟨a.fullName, a.value⟩) body]

/-- What trees of markup stand for, in order. -/
inductive ReadsAll : List Html → List Node → Prop where
  | nil : ReadsAll [] []
  | cons {tree : Html} {rest : List Html} {nodes others : List Node} (htree : Reads tree nodes)
      (hrest : ReadsAll rest others) : ReadsAll (tree :: rest) (nodes ++ others)

end

/-! ### There is one way to read markup -/

/-- Positions that hold no node and output elements are of no control tag's kind. -/
theorem lookup_controlKinds {name kind : String} (h : controlKinds.lookup name = some kind) :
    kind ≠ "Unknown" ∧ kind ≠ "Element" := by
  obtain ⟨before, after, hsplit, -⟩ := List.lookup_eq_some_iff.mp h
  have hmem : (name, kind) ∈ controlKinds := by
    rw [hsplit]
    exact List.mem_append_right _ List.mem_cons_self
  constructor <;> rintro rfl <;> simp [controlKinds] at hmem

/-- A control node has no parts besides its kind, its literals and its children. -/
theorem Expresses.unique {tag : StartTag} {body : List Node} {m n : Node}
    (hm : Expresses tag body m) (hn : Expresses tag body n) : m = n := by
  have hcontrol := lookup_controlKinds hm.kind
  have hkind : m.kindName = n.kindName := Option.some.inj (hm.kind.symm.trans hn.kind)
  have hliterals : m.literals = n.literals := hm.literals.trans hn.literals.symm
  have hchildren : m.children = n.children := hm.children.trans hn.children.symm
  clear hm hn
  cases m <;> cases n <;> simp_all [Node.kindName, Node.literals, Node.children]

mutual

/-- There is one way to read a tree of markup. -/
theorem reads_unique : (tree : Html) → {nodes others : List Node} → Reads tree nodes →
    Reads tree others → nodes = others
  | .text _, _, _, .text _, .text _ => rfl
  | .comment, _, _, .comment, .comment => rfl
  | .element .., _, _, .control hbody hnode, .control hbody' hnode' => by
      obtain rfl := readsAll_unique _ hbody hbody'
      rw [hnode.unique hnode']
  | .element .., _, _, .control _ hnode, .output _ htag => by
      have := hnode.kind.symm.trans htag
      cases this
  | .element .., _, _, .output _ htag, .control _ hnode => by
      have := hnode.kind.symm.trans htag
      cases this
  | .element .., _, _, .output hbody _, .output hbody' _ => by
      rw [readsAll_unique _ hbody hbody']

/-- There is one list of nodes that trees of markup stand for. -/
theorem readsAll_unique : (trees : List Html) → {nodes others : List Node} →
    ReadsAll trees nodes → ReadsAll trees others → nodes = others
  | [], _, _, .nil, .nil => rfl
  | _ :: _, _, _, .cons htree hrest, .cons htree' hrest' => by
      rw [reads_unique _ htree htree', readsAll_unique _ hrest hrest']

end

/-! ### Conversion checks the tags in order -/

/-- A computation fails at the first of some tags that is short. When none is, it has a result
with a property. -/
structure Checks {α : Type} (tags : List StartTag) (result : Except SourceFault α)
    (holds : α → Prop) : Prop where
  fails : ∀ tag, tags.find? short = some tag → result = .error (shortFault tag)
  succeeds : tags.find? short = none → ∃ a, result = .ok a ∧ holds a

namespace Checks

variable {α β : Type} {tags more : List StartTag} {result : Except SourceFault α}
  {holds : α → Prop} {holds' : β → Prop} {a : α}

/-- A result that is there at once needs no tags. -/
theorem pure (h : holds a) : Checks [] (.ok a) holds :=
  ⟨fun _ hfind => (nomatch hfind), fun _ => ⟨a, rfl, h⟩⟩

/-- A computation that checks one tag, which is short, fails with it. -/
theorem of_short {tag name : String} {attributes : List HtmlAttribute} (hname : upper tag = name)
    (hlt : attributes.length < required name)
    (hresult : result = .error (.malformed name (required name) attributes.length)) :
    Checks [⟨tag, attributes⟩] result holds := by
  subst hname
  have hfirst : [⟨tag, attributes⟩].find? short = some ⟨tag, attributes⟩ :=
    List.find?_cons_of_pos (decide_eq_true hlt)
  refine ⟨fun other hfind => ?_, fun hfind => ?_⟩
  · rw [hresult, ← Option.some.inj (hfirst.symm.trans hfind), shortFault]
  · cases hfirst.symm.trans hfind

/-- A computation that checks one tag, which is not short, has its result. -/
theorem of_enough {tag name : String} {attributes : List HtmlAttribute} (hname : upper tag = name)
    (hle : required name ≤ attributes.length) (hresult : result = .ok a) (ha : holds a) :
    Checks [⟨tag, attributes⟩] result holds := by
  subst hname
  refine ⟨fun other hfind => ?_, fun _ => ⟨a, hresult, ha⟩⟩
  have hlong : ¬ short ⟨tag, attributes⟩ = true := by
    rw [short, decide_eq_true_eq]
    exact Nat.not_lt.mpr hle
  rw [List.find?_cons_of_neg hlong] at hfind
  cases hfind

/-- What is computed from a result checks its own tags behind those of the result. -/
theorem bind {next : α → Except SourceFault β} (h : Checks tags result holds)
    (hnext : ∀ a, holds a → Checks more (next a) holds') :
    Checks (tags ++ more) (result.bind next) holds' := by
  constructor
  · intro tag hfind
    rw [List.find?_append] at hfind
    cases htags : tags.find? short with
    | some first =>
        rw [htags, Option.some_or] at hfind
        rw [h.fails first htags, ← Option.some.inj hfind]
        rfl
    | none =>
        rw [htags, Option.none_or] at hfind
        obtain ⟨a, rfl, ha⟩ := h.succeeds htags
        exact (hnext a ha).fails tag hfind
  · intro hfind
    rw [List.find?_append, Option.or_eq_none_iff] at hfind
    obtain ⟨a, rfl, ha⟩ := h.succeeds hfind.1
    exact (hnext a ha).succeeds hfind.2

/-- What is made of a result has a property that follows from that of the result. -/
theorem map {f : α → β} (h : Checks tags result holds) (hf : ∀ a, holds a → holds' (f a)) :
    Checks tags (result.map f) holds' := by
  constructor
  · intro tag hfind
    rw [h.fails tag hfind]
    rfl
  · intro hfind
    obtain ⟨a, rfl, ha⟩ := h.succeeds hfind
    exact ⟨f a, rfl, hf a ha⟩

end Checks

/-- The check of a control tag with enough attributes, by its name in capital letters. -/
theorem Checks.control {tag name space : String} {attributes : List HtmlAttribute}
    {children : List Html} {body : List Node} {result : Except SourceFault Node} {node : Node}
    (hname : upper tag = name) (hbody : ReadsAll children body)
    (hle : required name ≤ attributes.length) (hresult : result = .ok node)
    (kind : controlKinds.lookup name = some node.kindName)
    (literals : node.literals
      = (used name attributes).map fun a => some (Literal.ofAttribute a.name a.value))
    (hchildren : node.children = if name ∈ ["DO", "V"] then [] else body) :
    Checks [⟨tag, attributes⟩] result
      fun node => Reads (.element tag space attributes children) [node] := by
  refine .of_enough hname hle hresult (.control hbody ?_)
  subst hname
  exact ⟨kind, literals, hchildren⟩

/-- The conversion of an element checks its tag and makes its node. -/
theorem element_checks (tag space : String) (attributes : List HtmlAttribute)
    {children : List Html} {body : List Node} (hbody : ReadsAll children body) :
    Checks [⟨tag, attributes⟩] (element tag attributes body)
      fun node => Reads (.element tag space attributes children) [node] := by
  unfold element
  dsimp only
  generalize hname : upper tag = name
  -- One case for each control tag, and in it one for the attributes that the tag asks for.
  split
  · rcases attributes with _ | ⟨a, rest⟩
    · exact .of_short hname (by decide) rfl
    · exact .control hname hbody (Nat.succ_pos _) rfl rfl rfl rfl
  · exact .control hname hbody (Nat.zero_le _) rfl rfl rfl rfl
  · exact .control hname hbody (Nat.zero_le _) rfl rfl rfl rfl
  · rcases attributes with _ | ⟨a, rest⟩
    · exact .of_short hname (by decide) rfl
    · exact .control hname hbody (Nat.succ_pos _) rfl rfl rfl rfl
  · exact .control hname hbody (Nat.zero_le _) rfl rfl rfl rfl
  · rcases attributes with _ | ⟨a, _ | ⟨b, _ | ⟨c, rest⟩⟩⟩
    · exact .of_short hname (by decide) rfl
    · exact .of_short hname (show 1 < 3 by decide) rfl
    · exact .of_short hname (show 2 < 3 by decide) rfl
    · exact .control hname hbody (Nat.le_add_left _ _) rfl rfl rfl rfl
  · rcases attributes with _ | ⟨a, rest⟩
    · exact .of_short hname (by decide) rfl
    · exact .control hname hbody (Nat.succ_pos _) rfl rfl rfl rfl
  · exact .control hname hbody (Nat.zero_le _) rfl rfl rfl rfl
  · rcases attributes with _ | ⟨a, rest⟩
    · exact .of_short hname (by decide) rfl
    · exact .control hname hbody (Nat.succ_pos _) rfl rfl rfl rfl
  · have hother : ∀ entry ∈ controlKinds, name ≠ entry.1 := by simp_all [controlKinds]
    have hnone : controlKinds.lookup name = none :=
      List.lookup_eq_none_iff.mpr fun entry hmem => bne_iff_ne.mpr (hother entry hmem)
    have hrequired : required name = 0 := by simp_all [required]
    exact .of_enough hname (hrequired ▸ Nat.zero_le _) rfl (.output hbody (hname ▸ hnone))

mutual

/-- Converting a tree checks its tags, and gives a node that the tree reads as. -/
theorem convert_checks : (tree : Html) →
    Checks tree.startTags (convert tree) fun node => Reads tree node.toList
  | .text s => .pure (.text s)
  | .comment => .pure .comment
  | .element tag space attributes children => by
      rw [convert_element, Html.startTags]
      refine (convertAll_checks children).bind fun body hbody => ?_
      exact (element_checks tag space attributes hbody).map fun _ hnode => hnode

/-- Conversion checks the tags of trees of markup in the order in which the elements end. -/
theorem convertAll_checks : (trees : List Html) →
    Checks (startTagsAll trees) (convertAll trees) (ReadsAll trees)
  | [] => .pure .nil
  | tree :: rest => by
      rw [convertAll_cons, startTagsAll]
      refine (convert_checks tree).bind fun node hnode => ?_
      exact (convertAll_checks rest).map fun _ hrest => .cons hnode hrest

end

/-- Conversion fails when a tag is short, with the fault of the first that is. -/
theorem convertAll_eq_error_iff (trees : List Html) (fault : SourceFault) :
    convertAll trees = .error fault ↔
      ∃ tag, (startTagsAll trees).find? short = some tag ∧ fault = shortFault tag := by
  have hchecks := convertAll_checks trees
  constructor
  · intro hfault
    cases hfind : (startTagsAll trees).find? short with
    | some tag =>
        rw [hchecks.fails tag hfind] at hfault
        exact ⟨tag, rfl, (Except.error.inj hfault).symm⟩
    | none =>
        obtain ⟨nodes, hnodes, -⟩ := hchecks.succeeds hfind
        cases hnodes.symm.trans hfault
  · rintro ⟨tag, hfind, rfl⟩
    exact hchecks.fails tag hfind

end Source

end TagScript
