import TagScript.Markup.Render
import TagScript.Proofs.Eval.Contract
import TagScript.Proofs.Markup.Forest

/-!
# `TagScript.Proofs.Markup.Growth`: an evaluation only adds to the markup

An evaluation with the markup sink leaves the nodes that are in the store alone. It makes new
nodes and links new nodes to one another, and its results hold new nodes only
(`Forest.Grows`, `Forest.MadeBetween`, `eval_grows`). A child is always younger than its parent,
so that new nodes are in order.

Flattening a result appends nodes to a parent that was there before them (`Forest.Fills`,
`fills_flatten`). So does a rendering: it adds children to its root and changes no other node
that was there (`render_fills`). The trees below the children that the root had before stay
the same (`Forest.Fills.trees`).
-/

set_option autoImplicit false

namespace TagScript

open Markup SinkEvent

namespace Markup.Forest

variable {f g k : Forest} {base p c i : Nat}

/-- The second store comes from the first by adding nodes. The slots that were there are as
they were, and the children of new nodes were made after them. -/
structure Grows (f g : Forest) : Prop where
  size_le : f.size ≤ g.size
  slot : ∀ i < f.size, g.slots[i]? = f.slots[i]?
  ordered : g.OrderedFrom f.size

namespace Grows

/-- A node that was there is what it was. -/
theorem contentOf_eq (h : f.Grows g) (hi : i < f.size) : g.contentOf i = f.contentOf i := by
  rw [contentOf, h.slot i hi, contentOf]

/-- It has the children that it had. -/
theorem childrenOf_eq (h : f.Grows g) (hi : i < f.size) : g.childrenOf i = f.childrenOf i := by
  rw [childrenOf, h.slot i hi, childrenOf]

/-- It has the parent that it had, if it had one. -/
theorem parentOf_eq (h : f.Grows g) (hi : i < f.size) : g.parentOf i = f.parentOf i := by
  rw [parentOf, h.slot i hi, parentOf]

/-- What was in order stays so. -/
theorem orderedFrom (h : f.Grows g) (hf : f.OrderedFrom base) : g.OrderedFrom base := by
  intro i hi c hc
  rcases Nat.lt_or_ge i f.size with hlt | hge
  · rw [h.childrenOf_eq hlt] at hc
    obtain ⟨hic, hcf⟩ := hf i hi c hc
    exact ⟨hic, Nat.lt_of_lt_of_le hcf h.size_le⟩
  · exact h.ordered i hge c hc

/-- A store comes from itself. -/
theorem refl (f : Forest) : f.Grows f := by
  refine ⟨Nat.le_refl _, fun _ _ => rfl, fun i hi c hc => ?_⟩
  rw [childrenOf_of_size_le hi] at hc
  simp at hc

/-- Nodes may be added one after another. -/
theorem trans (h : f.Grows g) (h' : g.Grows k) : f.Grows k := by
  refine ⟨Nat.le_trans h.size_le h'.size_le, fun i hi => ?_, h'.orderedFrom h.ordered⟩
  rw [h'.slot i (Nat.lt_of_lt_of_le hi h.size_le), h.slot i hi]

/-- Creating a node adds it. -/
theorem create (f : Forest) (content : Content) : f.Grows (f.create content).2 := by
  refine ⟨Nat.le_of_lt (f.size_lt_create content), fun i hi => getElem?_create f content hi, ?_⟩
  intro i hi c hc
  rw [childrenOf_create, childrenOf_of_size_le hi] at hc
  simp at hc

end Grows

/-- The second store comes from the first by adding children to the node `p`. The children and
all other nodes that change have numbers from `base` on. -/
structure Fills (base p : Nat) (f g : Forest) : Prop where
  size_le : f.size ≤ g.size
  slot : ∀ i < base, i ≠ p → g.slots[i]? = f.slots[i]?
  contentOf_eq : ∀ i < f.size, g.contentOf i = f.contentOf i
  childrenOf_eq : ∀ i < f.size, i ≠ p → g.childrenOf i = f.childrenOf i
  added : ∃ cs, (g.childrenOf p).toList = (f.childrenOf p).toList ++ cs ∧
    ∀ c ∈ cs, base ≤ c ∧ c < g.size
  parentOf_eq : g.parentOf p = f.parentOf p
  ordered : g.OrderedFrom f.size

/-- Where nodes are only added, no node gets a child. -/
theorem Grows.fills (h : f.Grows g) (hp : p < f.size) : Fills f.size p f g where
  size_le := h.size_le
  slot i hi _ := h.slot i hi
  contentOf_eq _ hi := h.contentOf_eq hi
  childrenOf_eq _ hi _ := h.childrenOf_eq hi
  added := ⟨[], by rw [h.childrenOf_eq hp, List.append_nil], fun _ hc => nomatch hc⟩
  parentOf_eq := h.parentOf_eq hp
  ordered := h.ordered

namespace Fills

/-- What was in order stays so: a child that is added is younger than its parent. -/
theorem orderedFrom {base' : Nat} (h : Fills base p f g) (hp : p < base)
    (hf : f.OrderedFrom base') : g.OrderedFrom base' := by
  intro i hi c hc
  rcases Nat.lt_or_ge i f.size with hlt | hge
  · by_cases hip : i = p
    · obtain ⟨cs, hcs, hnew⟩ := h.added
      rw [hip, ← Array.mem_toList_iff, hcs, List.mem_append] at hc
      rcases hc with hold | hadded
      · obtain ⟨hic, hcf⟩ := hf i hi c (hip ▸ Array.mem_toList_iff.mp hold)
        exact ⟨hic, Nat.lt_of_lt_of_le hcf h.size_le⟩
      · obtain ⟨hle, hcg⟩ := hnew c hadded
        exact ⟨hip ▸ Nat.lt_of_lt_of_le hp hle, hcg⟩
    · rw [h.childrenOf_eq i hlt hip] at hc
      obtain ⟨hic, hcf⟩ := hf i hi c hc
      exact ⟨hic, Nat.lt_of_lt_of_le hcf h.size_le⟩
  · exact h.ordered i hge c hc

/-- Fewer numbers may be taken for old ones. -/
theorem mono {base' : Nat} (h : Fills base p f g) (hle : base' ≤ base) : Fills base' p f g where
  __ := h
  slot i hi := h.slot i (Nat.lt_of_lt_of_le hi hle)
  added := by
    obtain ⟨cs, hcs, hnew⟩ := h.added
    exact ⟨cs, hcs, fun c hc => ⟨Nat.le_trans hle (hnew c hc).1, (hnew c hc).2⟩⟩

/-- Children may be added one after another. -/
theorem trans (hp : p < base) (h : Fills base p f g) (h' : Fills base p g k) :
    Fills base p f k where
  size_le := Nat.le_trans h.size_le h'.size_le
  slot i hi hip := (h'.slot i hi hip).trans (h.slot i hi hip)
  contentOf_eq i hi :=
    (h'.contentOf_eq i (Nat.lt_of_lt_of_le hi h.size_le)).trans (h.contentOf_eq i hi)
  childrenOf_eq i hi hip :=
    (h'.childrenOf_eq i (Nat.lt_of_lt_of_le hi h.size_le) hip).trans (h.childrenOf_eq i hi hip)
  added := by
    obtain ⟨cs, hcs, hnew⟩ := h.added
    obtain ⟨cs', hcs', hnew'⟩ := h'.added
    refine ⟨cs ++ cs', by rw [hcs', hcs, List.append_assoc], fun c hc => ?_⟩
    rcases List.mem_append.mp hc with hc | hc
    · exact ⟨(hnew c hc).1, Nat.lt_of_lt_of_le (hnew c hc).2 h'.size_le⟩
    · exact hnew' c hc
  parentOf_eq := h'.parentOf_eq.trans h.parentOf_eq
  ordered := h'.orderedFrom hp h.ordered

/-- Appending a new node to `p` adds a child to it. -/
theorem append (hp : p < base) (hbase : base ≤ f.size) (hc : base ≤ c) (hcf : c < f.size) :
    Fills base p f (f.append p c) := by
  have hrefl := (Grows.refl f).fills (Nat.lt_of_lt_of_le hp hbase)
  by_cases happ : f.Appendable p c
  · refine ⟨Nat.le_of_eq (f.size_append p c).symm, ?_, ?_, ?_, ?_, ?_, ?_⟩
    · intro i hi hip
      exact getElem?_append f hip (Nat.ne_of_lt (Nat.lt_of_lt_of_le hi hc))
    · intro i _
      exact contentOf_append f p c i
    · intro i _ hip
      exact childrenOf_append_of_ne f c hip
    · refine ⟨[c], ?_, ?_⟩
      · rw [childrenOf_append_self happ, Array.toList_push]
      · intro d hd
        rw [List.mem_singleton.mp hd, size_append]
        exact ⟨hc, hcf⟩
    · exact f.parentOf_append p c p (Nat.ne_of_gt (Nat.lt_of_lt_of_le hp hc))
    · intro i hi d hd
      have hip : i ≠ p := Nat.ne_of_gt (Nat.lt_of_lt_of_le happ.parent_lt hi)
      rw [childrenOf_append_of_ne f c hip, childrenOf_of_size_le hi] at hd
      simp at hd
  · rw [append_of_not_appendable happ]
    exact hrefl.mono hbase

/-- A new text is made and added. -/
theorem text (hp : p < base) (hbase : base ≤ f.size) (t : String) :
    Fills base p f ((f.create (.text t)).2.append p f.size) := by
  have hmade := ((Grows.create f (.text t)).fills (Nat.lt_of_lt_of_le hp hbase)).mono hbase
  have hsize := size_create f (.text t)
  exact hmade.trans hp (.append hp (by omega) hbase (by omega))

/-- The trees of a node that gets children: those that it had, and those of the new ones. -/
theorem trees (h : Fills base p f g) (hp : p < base) (hf : f.OrderedFrom p) :
    ∃ cs, (g.childrenOf p).toList = (f.childrenOf p).toList ++ cs ∧
      g.trees p = f.trees p ++ cs.map g.tree := by
  obtain ⟨cs, hcs, -⟩ := h.added
  refine ⟨cs, hcs, ?_⟩
  have hold : (f.childrenOf p).toList.map g.tree = (f.childrenOf p).toList.map f.tree := by
    refine List.map_congr_left fun c hc => ?_
    obtain ⟨hpc, hcf⟩ := hf p (Nat.le_refl p) c (Array.mem_toList_iff.mp hc)
    -- Behind `p`, where its children are, the two stores agree.
    refine tree_eq_of_agree (hf.mono (Nat.le_succ p)) (h.orderedFrom hp (hf.mono (Nat.le_succ p)))
      (fun i _ hi => h.contentOf_eq i hi) (fun i hpi hi => ?_) hpc hcf
    exact h.childrenOf_eq i hi (Nat.ne_of_gt hpi)
  rw [Forest.trees, Forest.trees, hcs, List.map_append, hold]

/-- A new node that got children after it was made is a new node with new nodes below it. -/
theorem grows (h : Fills g.size f.size g k) (hfg : f.Grows g) (hlt : f.size < g.size) :
    f.Grows k where
  size_le := Nat.le_trans hfg.size_le h.size_le
  slot i hi := (h.slot i (Nat.lt_trans hi hlt) (Nat.ne_of_lt hi)).trans (hfg.slot i hi)
  ordered := h.orderedFrom hlt hfg.ordered

end Fills

/-- A fragment that is being built: it has no parent, and what is in it is in order. -/
structure Root (f : Forest) (p : Nat) : Prop where
  lt : p < f.size
  contentOf_eq : f.contentOf p = .fragment
  parentOf_eq : f.parentOf p = none
  ordered : f.OrderedFrom p

/-- It is being built further by adding children to it. -/
theorem Fills.root (h : Fills f.size p f g) (hp : f.Root p) : g.Root p where
  lt := Nat.lt_of_lt_of_le hp.lt h.size_le
  contentOf_eq := (h.contentOf_eq p hp.lt).trans hp.contentOf_eq
  parentOf_eq := h.parentOf_eq.trans hp.parentOf_eq
  ordered := h.orderedFrom hp.lt hp.ordered

/-- An evaluation alone adds nothing to it. -/
theorem Grows.trees_eq (h : f.Grows g) (hp : f.Root p) : g.trees p = f.trees p := by
  obtain ⟨cs, hcs, htrees⟩ := (h.fills hp.lt).trees hp.lt hp.ordered
  rw [h.childrenOf_eq hp.lt, List.self_eq_append_right] at hcs
  rw [htrees, hcs, List.map_nil, List.append_nil]

/-- The output nodes are in the second store and were not in the first. -/
def MadeBetween (f g : Forest) (nodes : List NodeRef) : Prop :=
  ∀ n ∈ nodes, ∃ i, n = some i ∧ f.size ≤ i ∧ i < g.size

end Markup.Forest

/-- The result of a body holds the output nodes of the results of its nodes. -/
theorem nodes_bodyResult (rs : List Result) : (bodyResult rs).nodes = Result.nodesAll rs := by
  cases rs <;> rfl

/-- It is flattened like these, one after another. -/
theorem flatten_bodyResult {σ : Type} (sink : Sink σ) (parent : NodeRef) (rs : List Result)
    (s : σ) : (bodyResult rs).flatten sink parent s = Result.flattenAll sink parent rs s := by
  cases rs <;> rfl

section

variable {f g : Forest} {base p : Nat} {nodes : List NodeRef} {events : List SinkEvent}

open Markup.Forest

/-- Requests that append nodes and texts to a parent only add children to it. -/
private theorem fills_feeds (hp : p < base) (hbase : base ≤ f.size)
    (hfeeds : Feeds (some p) nodes events) (htakes : Sink.html.Takes f events g)
    (hnodes : ∀ n ∈ nodes, ∃ i, n = some i ∧ base ≤ i ∧ i < f.size) : Fills base p f g := by
  induction hfeeds generalizing f with
  | nil =>
      cases htakes
      exact ((Grows.refl g).fills (Nat.lt_of_lt_of_le hp hbase)).mono hbase
  | node n _ ih =>
      obtain ⟨i, rfl, hi, hif⟩ := hnodes n List.mem_cons_self
      cases htakes with
      | append _ _ htakes =>
          have hsize : (f.append p i).size = f.size := f.size_append p i
          refine (Fills.append hp hbase hi hif).trans hp (ih ?_ htakes fun m hm => ?_)
          · exact Nat.le_trans hbase (Nat.le_of_eq hsize.symm)
          · obtain ⟨j, rfl, hj, hjf⟩ := hnodes m (List.mem_cons_of_mem _ hm)
            exact ⟨j, rfl, hj, Nat.lt_of_lt_of_eq hjf hsize.symm⟩
  | text n t _ ih =>
      cases htakes with
      | text _ htakes =>
          cases htakes with
          | append _ _ htakes =>
              have hadd := Fills.text hp hbase t
              refine hadd.trans hp (ih (Nat.le_trans hbase hadd.size_le) htakes fun m hm => ?_)
              obtain ⟨j, rfl, hj, hjf⟩ := hnodes m hm
              exact ⟨j, rfl, hj, Nat.lt_of_lt_of_le hjf hadd.size_le⟩

/-- Flattening a result adds children to the parent. -/
theorem fills_flatten (r : Result) (hp : p < base) (hbase : base ≤ f.size)
    (hnodes : ∀ n ∈ r.nodes, ∃ i, n = some i ∧ base ≤ i ∧ i < f.size) :
    Fills base p f (r.flatten Sink.html (some p) f) := by
  obtain ⟨events, hfeeds, hrec⟩ := r.records_flatten Sink.html (some p) (f, [])
  have htakes := hrec.takes
  rw [r.flatten_recorded] at htakes
  exact fills_feeds hp hbase hfeeds htakes hnodes

/-- An element that is made around a body is a new node, with what the body made in it. -/
private theorem grows_element (tag : String) (attributes : List Attribute) (r : Result)
    (h : (f.create (.element tag "" (assignAll attributes))).2.Grows g)
    (hnodes : (f.create (.element tag "" (assignAll attributes))).2.MadeBetween g r.nodes) :
    f.Grows (r.flatten Sink.html (some f.size) g) ∧
      f.size < (r.flatten Sink.html (some f.size) g).size := by
  have hlt := f.size_lt_create (.element tag "" (assignAll attributes))
  -- What the body made is added to the element, which is older than all of it.
  have hfills := (h.fills hlt).trans hlt (fills_flatten r hlt h.size_le hnodes)
  exact ⟨hfills.grows (.create f _) hlt, Nat.lt_of_lt_of_le hlt hfills.size_le⟩

/-- An evaluation may add nodes to the store, and leave new nodes in its results. -/
def building : Contract Forest where
  yields _ w rs w' := w.sink.Grows w'.sink ∧ w.sink.MadeBetween w'.sink (Result.nodesAll rs)
  stops _ w _ w' := w.sink.Grows w'.sink

/-- Every evaluation with the markup sink does so. -/
theorem building_lawful (limit : Int) (canceled : Cancellation) :
    building.Lawful ⟨.html, limit, canceled⟩ where
  refl _ w := ⟨.refl _, fun _ hn => nomatch hn⟩
  append h₁ h₂ := by
    refine ⟨h₁.1.trans h₂.1, fun n hn => ?_⟩
    rw [Result.nodesAll_append, List.mem_append] at hn
    -- A new node is from the first evaluation, and still there, or from the second.
    rcases hn with hn | hn
    · obtain ⟨i, hi, hle, hlt⟩ := h₁.2 n hn
      exact ⟨i, hi, hle, Nat.lt_of_lt_of_le hlt h₂.1.size_le⟩
    · obtain ⟨i, hi, hle, hlt⟩ := h₂.2 n hn
      exact ⟨i, hi, Nat.le_trans h₁.1.size_le hle, hlt⟩
  stop h₁ h₂ := h₁.1.trans h₂
  fault _ w _ := .refl _
  discard h := ⟨h.1, fun _ hn => nomatch hn⟩
  none h := h
  scalar _ h := h
  list {_ _ rs _} h := by
    refine ⟨h.1, ?_⟩
    show Forest.MadeBetween _ _ (Result.nodesAll rs ++ [])
    rw [List.append_nil]
    exact h.2
  note _ w _ := ⟨.refl _, fun _ hn => nomatch hn⟩
  poll _ w := ⟨.refl _, fun _ hn => nomatch hn⟩
  change _ := ⟨.refl _, fun _ hn => nomatch hn⟩
  text _ w t := by
    refine ⟨Grows.create w.sink (.text t), fun n hn => ?_⟩
    exact ⟨w.sink.size, List.mem_singleton.mp hn, Nat.le_refl _, w.sink.size_lt_create _⟩
  element {_ w rs w'} tag attributes h := by
    rw [dress_element_html] at h
    obtain ⟨hgrows, hmade⟩ := h
    rw [← nodes_bodyResult] at hmade
    -- Only the element is left in the result. The nodes of the body are below it.
    obtain ⟨hdone, hlt⟩ := grows_element tag attributes (bodyResult rs) hgrows hmade
    exact ⟨hdone, fun n hn => ⟨w.sink.size, List.mem_singleton.mp hn, Nat.le_refl _, hlt⟩⟩
  element_stop tag attributes h := by
    rw [dress_element_html] at h
    exact (Grows.create _ _).trans h
  enter h := h
  boundary _ h := h
  enter_stop _ h := h

/-- An evaluation of a node adds nodes to the store, and leaves new nodes in its result. -/
theorem eval_grows (limit : Int) (canceled : Cancellation) (scope : Nat) (n : Node)
    (w : World Forest) :
    (eval ⟨.html, limit, canceled⟩ scope n).Ends
      (fun r w' => w.sink.Grows w'.sink ∧ w.sink.MadeBetween w'.sink r.nodes)
      (fun _ w' => w.sink.Grows w'.sink) w := by
  have L := building_lawful limit canceled
  refine (L.evalNode (L.callUser _) scope n w).mono ?_ fun _ _ h => h
  intro r w' h
  have hnodes : Result.nodesAll [r] = r.nodes := List.append_nil _
  exact ⟨h.1, hnodes ▸ h.2⟩

/-- A rendering adds children to its root, whether it ends well or not. -/
theorem render_fills (limit : Int) (canceled : Cancellation) (scope : Nat) {root : Nat}
    (nodes : List Node) (w : World Forest) (hroot : root < w.sink.size) :
    (render ⟨.html, limit, canceled⟩ scope (some root) nodes).Ends
      (fun _ w' => Fills w.sink.size root w.sink w'.sink)
      (fun _ w' => Fills w.sink.size root w.sink w'.sink) w := by
  induction nodes generalizing w with
  | nil => exact (Grows.refl w.sink).fills hroot
  | cons n nodes ih =>
      simp only [render, Run.ends_bind, Run.ends_flatten]
      refine (eval_grows limit canceled scope n w).mono ?_ fun _ _ h => h.fills hroot
      rintro r w₁ ⟨hgrows, hmade⟩
      -- The node has made new nodes, and these go into the root before the rest is evaluated.
      have hflat := (hgrows.fills hroot).trans hroot
        (fills_flatten r hroot hgrows.size_le hmade)
      have hrest := ih { w₁ with sink := r.flatten Sink.html (some root) w₁.sink }
        (Nat.lt_of_lt_of_le hroot hflat.size_le)
      refine hrest.mono ?_ ?_
      · intro _ w₂ h
        exact hflat.trans hroot (h.mono hflat.size_le)
      · intro _ w₂ h
        exact hflat.trans hroot (h.mono hflat.size_le)

/-- A fragment is rendered into a new node, which has no children at first. -/
theorem renderFragment_eq (w : World Forest) (limit : Int) (canceled : Cancellation)
    (nodes : List Node) :
    w.renderFragment limit canceled nodes
      = (w.sink.size,
          (render ⟨.html, limit, canceled⟩ 0 (some w.sink.size) nodes).run.run w.newFragment.2) :=
  rfl

/-- A new fragment is one that is being built. -/
theorem root_newFragment (w : World Forest) : w.newFragment.2.sink.Root w.sink.size where
  lt := w.sink.size_lt_create .fragment
  contentOf_eq := contentOf_create_self w.sink .fragment
  parentOf_eq := by
    rw [← w.sink.parentOf_of_size_le w.sink.size (Nat.le_refl _)]
    exact w.sink.parentOf_create w.sink.size .fragment
  ordered := (Grows.create w.sink .fragment).ordered

/-- There is nothing in it. -/
theorem trees_newFragment (w : World Forest) : w.newFragment.2.sink.trees w.sink.size = [] := by
  show ((w.sink.create .fragment).2.childrenOf w.sink.size).toList.map _ = []
  rw [childrenOf_create, childrenOf_of_size_le (Nat.le_refl _)]
  rfl

end

end TagScript
