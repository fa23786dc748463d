import Mathlib.Data.List.Induction
import Mathlib.Data.List.Nodup
import TagScript.Proofs.Markup.Growth

/-!
# `TagScript.Proofs.Markup.PassThrough`: markup without control tags comes out as it is

A tree of markup is plain if no element in it, at any depth, is a control tag. `Html.output?` says
what becomes of it: comments are left out, elements lose their space, and an attribute that is
given more than once stands where it was given first, with the value that was given last
(`mergeAttributes`).

`Forest.Builds` describes an evaluation that makes given trees: their roots are new nodes
without a parent, so that they may be appended somewhere. A node `Passes` as a tree if its
evaluation makes that tree and does nothing else. A text passes as itself, and an element
passes with what its body passes as in it. So the nodes of a plain tree pass as its output
(`convertAll_passes`), and a rendering of plain markup appends exactly its output
(`render_plain`).
-/

set_option autoImplicit false

namespace TagScript

open Markup Text

namespace Markup

/-! ### Plain markup and what it becomes -/

/-- The names of the control tags. -/
def controlTags : List String :=
  ["DEFN", "LET", "COND", "IF", "ELSE", "FOR", "DO", "NB", "V"]

mutual

/-- Whether no element of a tree is a control tag. -/
def Html.plain : Html → Bool
  | .text _ | .comment => true
  | .element tag _ _ children => !controlTags.contains (upper tag) && plainAll children

/-- Whether no element of several trees is a control tag. -/
def plainAll : List Html → Bool
  | [] => true
  | tree :: rest => tree.plain && plainAll rest

end

/-- The value that is given last under a full name. -/
def lastValue (attributes : List HtmlAttribute) (name : String) : String :=
  match attributes.reverse.find? (·.fullName == name) with
  | some a => a.value
  | none => ""

/-- Attributes under their full names, in the order in which these occur first, with their last
values. -/
def mergeAttributes (attributes : List HtmlAttribute) : List HtmlAttribute :=
  (attributes.map (·.fullName)).eraseDups.map fun name => ⟨"", name, lastValue attributes name⟩

mutual

/-- What becomes of a plain tree. -/
def Html.output? : Html → Option Html
  | .text s => some (.text s)
  | .comment => none
  | .element tag _ attributes children =>
    some (.element tag "" (mergeAttributes attributes) (outputAll children))

/-- What becomes of several plain trees. -/
def outputAll : List Html → List Html
  | [] => []
  | tree :: rest => tree.output?.toList ++ outputAll rest

end

/-! ### Attributes -/

/-- A further name stands last, unless it was there before. -/
theorem eraseDups_concat (names : List String) (name : String) :
    (names ++ [name]).eraseDups
      = if name ∈ names then names.eraseDups else names.eraseDups ++ [name] := by
  rw [List.eraseDups_append]
  by_cases h : name ∈ names
  · simp [h, List.removeAll]
  · simp [h, List.removeAll, List.eraseDups_cons]

/-- No name is left twice. -/
theorem nodup_eraseDups (names : List String) : names.eraseDups.Nodup := by
  induction names using List.reverseRecOn with
  | nil => exact List.nodup_nil
  | append_singleton names name ih =>
      rw [eraseDups_concat]
      split
      · exact ih
      · next h =>
          refine List.nodup_append'.mpr ⟨ih, List.nodup_singleton name, ?_⟩
          rw [List.disjoint_singleton]
          exact fun hmem => h (List.mem_eraseDups.mp hmem)

/-- To give a value to a name is to change the value of that name, behind the others if the name
is new. -/
private theorem assign_map {names : List String} (hnodup : names.Nodup) (value : String → String)
    (name new : String) :
    Forest.assign (names.map fun n => ⟨"", n, value n⟩) name new
      = (if name ∈ names then names else names ++ [name]).map fun n =>
          ⟨"", n, if name = n then new else value n⟩ := by
  induction names with
  | nil => simp [Forest.assign]
  | cons m names ih =>
      obtain ⟨hm, hrest⟩ := List.nodup_cons.mp hnodup
      by_cases h : m = name
      · subst h
        -- The name occurs only here, so that the rest keeps its values.
        have hkeep : (names.map fun n => (⟨"", n, value n⟩ : HtmlAttribute))
            = names.map fun n => ⟨"", n, if m = n then new else value n⟩ := by
          refine List.map_congr_left fun n hn => ?_
          rw [if_neg fun heq : m = n => hm (heq ▸ hn)]
        simp [Forest.assign, hkeep]
      · have hne : ¬ name = m := fun heq => h heq.symm
        simp only [List.map_cons, Forest.assign, if_neg h, ih hrest, List.mem_cons, hne, false_or]
        split <;> simp [hne]

/-- A further attribute gives its name its value, and leaves the others alone. -/
theorem lastValue_concat (attributes : List HtmlAttribute) (a : HtmlAttribute) (name : String) :
    lastValue (attributes ++ [a]) name
      = if a.fullName = name then a.value else lastValue attributes name := by
  rw [lastValue, List.reverse_append, List.reverse_singleton, List.singleton_append,
    List.find?_cons]
  by_cases h : a.fullName = name
  · rw [if_pos h, beq_iff_eq.mpr h]
  · rw [if_neg h, beq_eq_false_iff_ne.mpr h, lastValue]

/-- To give one more attribute is to give its value to its name. -/
theorem mergeAttributes_concat (attributes : List HtmlAttribute) (a : HtmlAttribute) :
    mergeAttributes (attributes ++ [a])
      = Forest.assign (mergeAttributes attributes) a.fullName a.value := by
  rw [mergeAttributes, mergeAttributes, assign_map (nodup_eraseDups _), List.map_append,
    List.map_singleton, eraseDups_concat]
  simp only [List.mem_eraseDups, lastValue_concat]

/-- Giving an element its attributes in order leaves it with the merged attributes. -/
theorem assignAll_eq_mergeAttributes (attributes : List HtmlAttribute) :
    Forest.assignAll (attributes.map fun a => ⟨a.fullName, a.value⟩)
      = mergeAttributes attributes := by
  induction attributes using List.reverseRecOn with
  | nil => rfl
  | append_singleton attributes a ih =>
      rw [mergeAttributes_concat, ← ih, List.map_append, Forest.assignAll, List.foldl_append]
      rfl

/-! ### Building trees -/

namespace Forest

variable {f g k : Forest} {p i : Nat} {ids ids' : List Nat} {trees trees' : List Html}

/-- Between two stores the given trees were built. Their roots are new, and have no parent
yet. -/
structure Builds (f g : Forest) (ids : List Nat) (trees : List Html) : Prop where
  grows : f.Grows g
  made : ∀ i ∈ ids, f.size ≤ i ∧ i < g.size
  nodup : ids.Nodup
  free : ∀ i ∈ ids, g.parentOf i = none
  trees_eq : ids.map g.tree = trees

/-- Append nodes to a parent in order. -/
def appendAll (f : Forest) (p : Nat) (ids : List Nat) : Forest :=
  ids.foldl (fun f i => f.append p i) f

/-- A node that is not appended keeps its parent. -/
theorem parentOf_appendAll (f : Forest) (p : Nat) (h : i ∉ ids) :
    (f.appendAll p ids).parentOf i = f.parentOf i := by
  induction ids generalizing f with
  | nil => rfl
  | cons c ids ih =>
      obtain ⟨hc, hids⟩ := not_or.mp (mt List.mem_cons.mpr h)
      exact (ih (f.append p c) hids).trans (f.parentOf_append p c i fun heq => hc heq.symm)

/-- Nodes without a parent are all appended. -/
theorem childrenOf_appendAll (hp : p < f.size) (hlt : ∀ i ∈ ids, i < f.size)
    (hfree : ∀ i ∈ ids, f.parentOf i = none) (hnodup : ids.Nodup) :
    ((f.appendAll p ids).childrenOf p).toList = (f.childrenOf p).toList ++ ids := by
  induction ids generalizing f with
  | nil => exact (List.append_nil _).symm
  | cons c ids ih =>
      obtain ⟨hc, hrest⟩ := List.nodup_cons.mp hnodup
      have hsize : (f.append p c).size = f.size := f.size_append p c
      have happ : f.Appendable p c :=
        ⟨hp, hlt c List.mem_cons_self, hfree c List.mem_cons_self⟩
      have hchildren := ih (hsize.symm ▸ hp)
        (fun i hi => hsize.symm ▸ hlt i (List.mem_cons_of_mem c hi))
        (fun i hi => by
          rw [f.parentOf_append p c i fun heq => hc (heq ▸ hi)]
          exact hfree i (List.mem_cons_of_mem c hi)) hrest
      rw [childrenOf_append_self happ, Array.toList_push, List.append_assoc] at hchildren
      exact hchildren

/-- Flattening output nodes appends them. -/
theorem flatten_outputs (f : Forest) (p : Nat) (ids : List Nat) :
    (bodyResult (ids.map fun i => .output (some i))).flatten Sink.html (some p) f
      = f.appendAll p ids := by
  rw [flatten_bodyResult]
  induction ids generalizing f with
  | nil => rfl
  | cons i ids ih => exact ih (f.append p i)

/-- The output nodes in results that are output nodes. -/
theorem nodes_outputs (ids : List Nat) :
    (bodyResult (ids.map fun i => .output (some i))).nodes = ids.map some := by
  rw [nodes_bodyResult]
  induction ids with
  | nil => rfl
  | cons i ids ih => exact congrArg (some i :: ·) ih

namespace Builds

/-- Where nothing is built, there are no trees. -/
theorem nil (f : Forest) : f.Builds f [] [] where
  grows := .refl f
  made _ hi := nomatch hi
  nodup := .nil
  free _ hi := nomatch hi
  trees_eq := rfl

/-- Trees may be built one after another. -/
theorem append (h : f.Builds g ids trees) (h' : g.Builds k ids' trees') :
    f.Builds k (ids ++ ids') (trees ++ trees') where
  grows := h.grows.trans h'.grows
  made i hi := by
    rcases List.mem_append.mp hi with hi | hi
    · exact ⟨(h.made i hi).1, Nat.lt_of_lt_of_le (h.made i hi).2 h'.grows.size_le⟩
    · exact ⟨Nat.le_trans h.grows.size_le (h'.made i hi).1, (h'.made i hi).2⟩
  nodup := by
    refine List.nodup_append'.mpr ⟨h.nodup, h'.nodup, fun i hi hi' => ?_⟩
    exact Nat.not_le_of_lt (h.made i hi).2 (h'.made i hi').1
  free i hi := by
    rcases List.mem_append.mp hi with hi | hi
    · rw [h'.grows.parentOf_eq (h.made i hi).2]
      exact h.free i hi
    · exact h'.free i hi
  trees_eq := by
    -- What is built second leaves the trees that were built first alone.
    have hkept : ids.map k.tree = ids.map g.tree := by
      refine List.map_congr_left fun i hi => ?_
      exact tree_eq_of_agree h.grows.ordered (h'.grows.orderedFrom h.grows.ordered)
        (fun _ _ hj => h'.grows.contentOf_eq hj) (fun _ _ hj => h'.grows.childrenOf_eq hj)
        (h.made i hi).1 (h.made i hi).2
    rw [List.map_append, hkept, h.trees_eq, h'.trees_eq]

/-- A text is built by making it. -/
theorem text (f : Forest) (s : String) :
    f.Builds (f.create (.text s)).2 [f.size] [.text s] where
  grows := .create f (.text s)
  made i hi := by
    rw [List.mem_singleton.mp hi]
    exact ⟨Nat.le_refl _, f.size_lt_create _⟩
  nodup := List.nodup_singleton _
  free i hi := by
    rw [List.mem_singleton.mp hi, parentOf_create, parentOf_of_size_le f _ (Nat.le_refl _)]
  trees_eq := by
    rw [List.map_singleton, tree, treeWithin, contentOf_create_self]

/-- Trees that were built may be appended to a node that was there before. -/
theorem fill (h : f.Builds g ids trees) (hp : p < f.size) (hf : f.OrderedFrom p) :
    Fills f.size p f (g.appendAll p ids) ∧ (g.appendAll p ids).trees p = f.trees p ++ trees := by
  have hnodes : ∀ n ∈ (bodyResult (ids.map fun i => .output (some i))).nodes,
      ∃ i, n = some i ∧ f.size ≤ i ∧ i < g.size := by
    intro n hn
    rw [nodes_outputs] at hn
    obtain ⟨i, hi, rfl⟩ := List.mem_map.mp hn
    exact ⟨i, rfl, h.made i hi⟩
  have hfills := fills_flatten _ hp h.grows.size_le hnodes
  rw [flatten_outputs] at hfills
  have hall := (h.grows.fills hp).trans hp hfills
  refine ⟨hall, ?_⟩
  -- The children that `p` got are all the nodes, and the trees below these have not changed.
  obtain ⟨cs, hcs, htrees⟩ := hall.trees hp hf
  have hchildren := childrenOf_appendAll (Nat.lt_of_lt_of_le hp h.grows.size_le)
    (fun i hi => (h.made i hi).2) h.free h.nodup
  rw [h.grows.childrenOf_eq hp, hcs] at hchildren
  rw [htrees, List.append_cancel_left hchildren, ← h.trees_eq]
  refine congrArg (f.trees p ++ ·) (List.map_congr_left fun i hi => ?_)
  refine tree_eq_of_agree h.grows.ordered (hfills.orderedFrom hp h.grows.ordered)
    (fun j _ hj => hfills.contentOf_eq j hj) (fun j hle hj => ?_) (h.made i hi).1 (h.made i hi).2
  exact hfills.childrenOf_eq j hj (Nat.ne_of_gt (Nat.lt_of_lt_of_le hp hle))

/-- An element is built by making it, building what is in it and appending that. -/
theorem element {tag : String} {attributes : List HtmlAttribute}
    (h : (f.create (.element tag "" attributes)).2.Builds g ids trees) :
    f.Builds (g.appendAll f.size ids) [f.size] [.element tag "" attributes trees] := by
  have hlt := f.size_lt_create (.element tag "" attributes)
  have hopen := Grows.create f (.element tag "" attributes)
  obtain ⟨hfills, htrees⟩ := h.fill hlt hopen.ordered
  have hgrows := hfills.grows hopen hlt
  refine ⟨hgrows, ?_, List.nodup_singleton _, ?_, ?_⟩
  · intro i hi
    rw [List.mem_singleton.mp hi]
    exact ⟨Nat.le_refl _, Nat.lt_of_lt_of_le hlt hfills.size_le⟩
  · intro i hi
    have hout : f.size ∉ ids := fun hmem => Nat.not_le_of_lt hlt (h.made _ hmem).1
    rw [List.mem_singleton.mp hi, parentOf_appendAll g f.size hout, h.grows.parentOf_eq hlt,
      parentOf_create, parentOf_of_size_le f _ (Nat.le_refl _)]
  · have hcontent : (g.appendAll f.size ids).contentOf f.size = .element tag "" attributes := by
      rw [hfills.contentOf_eq f.size hlt, contentOf_create_self]
    have hempty : (f.create (.element tag "" attributes)).2.trees f.size = [] := by
      rw [Forest.trees, childrenOf_create, childrenOf_of_size_le (Nat.le_refl _)]
      rfl
    rw [List.map_singleton, tree_element hgrows.ordered hcontent, htrees, hempty, List.nil_append]

end Builds

end Forest

end Markup

/-! ### Nodes that pass -/

open Markup.Forest

/-- An evaluation of the node makes the tree, wherever and in whatever state it is evaluated,
and does nothing else. -/
def Node.Passes (n : Node) (tree : Html) : Prop :=
  ∀ (limit : Int) (canceled : Cancellation) (caller : Caller Forest) (scope : Nat)
    (w : World Forest),
    (evalNode ⟨.html, limit, canceled⟩ caller scope n).Ends
      (fun r w' => ∃ i g, r = .output (some i) ∧ w' = { w with sink := g } ∧
        w.sink.Builds g [i] [tree])
      (fun _ _ => False) w

section

variable {nodes : List Node} {trees : List Html}

/-- A text passes as itself. -/
theorem passes_text (s : String) : (Node.value (some (.text s))).Passes (.text s) := by
  intro limit canceled caller scope w
  exact ⟨w.sink.size, _, rfl, rfl, .text w.sink s⟩

/-- Nodes that pass make their trees one after another. -/
theorem evalAll_passes (h : List.Forall₂ Node.Passes nodes trees) (limit : Int)
    (canceled : Cancellation) (caller : Caller Forest) (scope : Nat) (w : World Forest) :
    (evalAll ⟨.html, limit, canceled⟩ caller scope nodes).Ends
      (fun rs w' => ∃ ids g, rs = ids.map (fun i => .output (some i)) ∧
        w' = { w with sink := g } ∧ w.sink.Builds g ids trees)
      (fun _ _ => False) w := by
  induction h generalizing w with
  | nil => exact ⟨[], w.sink, rfl, rfl, .nil w.sink⟩
  | cons hn _ ih =>
      simp only [evalAll, Run.ends_bind, Run.ends_pure]
      refine (hn limit canceled caller scope w).mono ?_ fun _ _ hfalse => hfalse
      rintro _ _ ⟨i, g, rfl, rfl, hbuilds⟩
      refine (ih { w with sink := g }).mono ?_ fun _ _ hfalse => hfalse
      rintro _ _ ⟨ids, k, rfl, rfl, hrest⟩
      exact ⟨i :: ids, k, rfl, rfl, hbuilds.append hrest⟩

/-- An element passes with what its body passes as in it. -/
theorem passes_element (tag : String) (attributes : List Attribute)
    (h : List.Forall₂ Node.Passes nodes trees) :
    (Node.element tag attributes nodes).Passes
      (.element tag "" (assignAll attributes) trees) := by
  intro limit canceled caller scope w
  simp only [evalNode, Run.ends_bind, Run.ends_createElement, Run.ends_flatten, Run.ends_pure,
    dress_element_html]
  refine (evalAll_passes h limit canceled caller scope _).mono ?_ fun _ _ hfalse => hfalse
  rintro _ _ ⟨ids, g, rfl, rfl, hbuilds⟩
  exact ⟨w.sink.size, _, rfl, congrArg (fun s => { w with sink := s })
    (flatten_outputs g w.sink.size ids), hbuilds.element⟩

/-- A rendering of nodes that pass appends their trees to its root. -/
theorem render_passes (h : List.Forall₂ Node.Passes nodes trees) (limit : Int)
    (canceled : Cancellation) (scope : Nat) {root : Nat} (w : World Forest)
    (hroot : root < w.sink.size) (hordered : w.sink.OrderedFrom root) :
    (render ⟨.html, limit, canceled⟩ scope (some root) nodes).Ends
      (fun _ w' => ∃ g, w' = { w with sink := g } ∧ g.trees root = w.sink.trees root ++ trees)
      (fun _ _ => False) w := by
  induction h generalizing w with
  | nil => exact ⟨w.sink, rfl, (List.append_nil _).symm⟩
  | cons hn _ ih =>
      simp only [render, eval, Run.ends_bind, Run.ends_flatten]
      refine (hn limit canceled _ scope w).mono ?_ fun _ _ hfalse => hfalse
      rintro _ _ ⟨i, g, rfl, rfl, hbuilds⟩
      -- The tree of the first node is in the root when the rest begins.
      obtain ⟨hfills, htrees⟩ := hbuilds.fill hroot hordered
      refine (ih { w with sink := g.appendAll root [i] } (Nat.lt_of_lt_of_le hroot hfills.size_le)
        (hfills.orderedFrom hroot hordered)).mono ?_ fun _ _ hfalse => hfalse
      rintro _ _ ⟨k, rfl, hrest⟩
      refine ⟨k, rfl, ?_⟩
      rw [hrest, htrees, List.append_assoc, List.singleton_append]

end

/-! ### Plain markup passes -/

namespace Source

/-- An element that is no control tag stays an element. -/
theorem element_of_not_control {tag : String} (h : controlTags.contains (upper tag) = false)
    (attributes : List HtmlAttribute) (body : List Node) :
    element tag attributes body = .ok (outputElement tag attributes body) := by
  have hne : ∀ name ∈ controlTags, upper tag ≠ name := by
    rintro name hname rfl
    rw [List.contains_iff_mem.mpr hname] at h
    cases h
  unfold element
  dsimp only
  split
  case h_10 => rfl
  all_goals
    next heq => exact absurd heq (hne _ (by decide))

mutual

/-- The node of a plain tree passes as what becomes of the tree. -/
theorem convert_passes : (tree : Html) → tree.plain = true →
    ∃ node, convert tree = .ok node ∧
      List.Forall₂ Node.Passes node.toList tree.output?.toList
  | .text s, _ => ⟨_, rfl, .cons (passes_text s) .nil⟩
  | .comment, _ => ⟨_, rfl, .nil⟩
  | .element tag space attributes children, h => by
      rw [Html.plain, Bool.and_eq_true, Bool.not_eq_true'] at h
      obtain ⟨body, hbody, hpasses⟩ := convertAll_passes children h.2
      refine ⟨some (outputElement tag attributes body), ?_, .cons ?_ .nil⟩
      · rw [convert, hbody]
        dsimp only
        rw [element_of_not_control h.1]
      · rw [← assignAll_eq_mergeAttributes]
        exact passes_element tag _ hpasses

/-- The same for several trees. -/
theorem convertAll_passes : (trees : List Html) → plainAll trees = true →
    ∃ nodes, convertAll trees = .ok nodes ∧ List.Forall₂ Node.Passes nodes (outputAll trees)
  | [], _ => ⟨[], rfl, .nil⟩
  | tree :: rest, h => by
      rw [plainAll, Bool.and_eq_true] at h
      obtain ⟨node, hnode, hpasses⟩ := convert_passes tree h.1
      obtain ⟨nodes, hnodes, hrest⟩ := convertAll_passes rest h.2
      refine ⟨node.toList ++ nodes, ?_, List.rel_append hpasses hrest⟩
      rw [convertAll, hnode, hnodes]

end

end Source

/-- **Markup without control tags passes through.** Trees of markup of which no element, at any
depth, is a control tag can be converted. In every state, under every limit, rendering the nodes
that they are converted to ends well. The new fragment then has exactly what becomes of the trees
in it, in order: the comments are left out at every depth, the tags, the texts and the order of
children are the same, and each element has its attributes merged. The scopes with their
variables, functions and operands are as they were, and nothing is logged. -/
theorem renderFragment_plain (trees : List Html) (hplain : plainAll trees = true) :
    ∃ nodes, Source.convertAll trees = .ok nodes ∧
      ∀ (w : World Forest) (limit : Int) (canceled : Cancellation),
        let rendered := w.renderFragment limit canceled nodes
        let after := rendered.2.2
        rendered.2.1 = .ok () ∧ after.sink.trees rendered.1 = outputAll trees ∧
          after.tree = w.tree ∧ after.log = w.log ∧ after.polls = w.polls := by
  obtain ⟨nodes, hnodes, hpasses⟩ := Source.convertAll_passes trees hplain
  refine ⟨nodes, hnodes, fun w limit canceled => ?_⟩
  have hroot := root_newFragment w
  have hends := render_passes hpasses limit canceled 0 w.newFragment.2 hroot.lt hroot.ordered
  rcases hrun : (render ⟨.html, limit, canceled⟩ 0 (some w.sink.size) nodes).run.run
    w.newFragment.2 with ⟨_ | _, w'⟩
  · exact (hends.of_error hrun).elim
  · obtain ⟨g, rfl, htrees⟩ := hends.of_ok hrun
    rw [trees_newFragment, List.nil_append] at htrees
    rw [renderFragment_eq, hrun]
    exact ⟨rfl, htrees, rfl, rfl, rfl⟩

set_option maxRecDepth 4000 in
/-- A paragraph with a comment in it, an attribute that is given twice and one with a space. -/
theorem renderFragment_plain_paragraph :
    let trees : List Html :=
      [.comment, .element "p" "" [⟨"", "id", "a"⟩, ⟨"xlink", "href", "u"⟩, ⟨"", "id", "b"⟩]
        [.text "x", .comment, .element "g" "svg" [] []]]
    plainAll trees = true ∧ ∃ nodes, Source.convertAll trees = .ok nodes ∧
      let w : World Forest := World.initial [] 0 Forest.empty
      (w.renderFragment 10 false nodes).2.2.sink.trees 0
        = [.element "p" "" [⟨"", "id", "b"⟩, ⟨"", "xlink:href", "u"⟩]
            [.text "x", .element "g" "" [] []]] := by
  intro trees
  have hplain : plainAll trees = true := by decide
  obtain ⟨nodes, hnodes, hrendered⟩ := renderFragment_plain trees hplain
  exact ⟨hplain, nodes, hnodes, (hrendered _ 10 false).2.1⟩

end TagScript
