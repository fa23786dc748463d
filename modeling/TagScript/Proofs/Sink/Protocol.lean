import Mathlib.Data.List.Nodup
import TagScript.Eval.Sink

/-!
# `TagScript.Proofs.Sink.Protocol`: the order in which output nodes may be used

A node is made, it gets its attributes, children are appended to it, and last it is appended
to a parent itself. After that nobody asks for it again. `SinkEvent.Allowed` says this of one
request, given the requests before it, and `SinkEvent.Follows` of all requests of a list.
Both can be decided.

A run is pieced together from shorter runs, and most of these touch only nodes that they
make themselves. `Leaves events nodes` describes such a run: `events` keep to the protocol
without any node from outside, and `nodes` are made by them and not yet appended.
`Leaves.append` puts two such runs one after the other. `Feeds parent nodes events` is the
other kind of run, which appends `nodes` to `parent`, with new texts in between. It may come
where parent and nodes are `Ready` for it (`Ready.feed`).

Both rules need that no node is made twice (`Fresh`). That is up to the sink.
-/

set_option autoImplicit false

namespace TagScript

/-- A request to a sink, with the node that it made or changed. A sink may make nothing
where it is asked for a node. -/
inductive SinkEvent where
  | element (node : NodeRef) (tag : String)
  | text (node : NodeRef) (s : String)
  | setAttribute (node : NodeRef) (name value : String)
  | append (parent child : NodeRef)
deriving Repr, DecidableEq

namespace SinkEvent

variable {roots : List NodeRef} {pre events events' : List SinkEvent} {n parent : NodeRef}

/-- The nodes that were made, in order. -/
def made (events : List SinkEvent) : List NodeRef :=
  events.filterMap fun
    | .element n _ | .text n _ => some n
    | _ => none

/-- The elements among them. -/
def elements (events : List SinkEvent) : List NodeRef :=
  events.filterMap fun
    | .element n _ => some n
    | _ => none

/-- The nodes that were appended to a parent, in order. -/
def children (events : List SinkEvent) : List NodeRef :=
  events.filterMap fun
    | .append _ c => some c
    | _ => none

/-- The parents that they were appended to. -/
def parents (events : List SinkEvent) : List NodeRef :=
  events.filterMap fun
    | .append p _ => some p
    | _ => none

/-- Whether a request may come after the requests `pre`. An attribute is set on an element
that was made before, is not appended yet and has no children yet. A child was made before,
is not appended yet and is not its own parent. A parent is one of the roots, or an element
that was made before and is not appended yet. -/
def Allowed (roots : List NodeRef) (pre : List SinkEvent) : SinkEvent → Prop
  | .element _ _ | .text _ _ => True
  | .setAttribute n _ _ => n ∈ elements pre ∧ n ∉ children pre ∧ n ∉ parents pre
  | .append p c =>
      c ∈ made pre ∧ c ∉ children pre ∧ p ≠ c ∧
        (p ∈ roots ∨ p ∈ elements pre ∧ p ∉ children pre)

instance (roots : List NodeRef) (pre : List SinkEvent) : DecidablePred (Allowed roots pre)
  | .element _ _ | .text _ _ => isTrue trivial
  | .setAttribute n _ _ =>
      inferInstanceAs (Decidable (n ∈ elements pre ∧ n ∉ children pre ∧ n ∉ parents pre))
  | .append p c =>
      inferInstanceAs (Decidable (c ∈ made pre ∧ c ∉ children pre ∧ p ≠ c ∧
        (p ∈ roots ∨ p ∈ elements pre ∧ p ∉ children pre)))

/-- After the requests `pre`, each of the requests is allowed when its turn comes. -/
def Follows (roots : List NodeRef) : List SinkEvent → List SinkEvent → Prop
  | _, [] => True
  | pre, ev :: rest => Allowed roots pre ev ∧ Follows roots (pre ++ [ev]) rest

/-- A request is about a node: it makes it or changes it, or it links it to another. -/
def Touches (n : NodeRef) : SinkEvent → Prop
  | .element m _ | .text m _ | .setAttribute m _ _ => m = n
  | .append p c => p = n ∨ c = n

/-- Every request for a node made one, and no node was made twice. -/
structure Fresh (events : List SinkEvent) : Prop where
  nodup : (made events).Nodup
  none_notMem : none ∉ made events

/-! ### Lists of requests in parts -/

/-- The nodes that requests make are those of their parts. -/
@[simp]
theorem made_append (a b : List SinkEvent) : made (a ++ b) = made a ++ made b :=
  List.filterMap_append

/-- So are the elements. -/
@[simp]
theorem elements_append (a b : List SinkEvent) :
    elements (a ++ b) = elements a ++ elements b :=
  List.filterMap_append

/-- So are the nodes that they append. -/
@[simp]
theorem children_append (a b : List SinkEvent) :
    children (a ++ b) = children a ++ children b :=
  List.filterMap_append

/-- So are the nodes that they append to. -/
@[simp]
theorem parents_append (a b : List SinkEvent) : parents (a ++ b) = parents a ++ parents b :=
  List.filterMap_append

/-- Elements are nodes that were made. -/
theorem made_of_elements (h : n ∈ elements events) : n ∈ made events := by
  obtain ⟨ev, hev, hn⟩ := List.mem_filterMap.mp h
  refine List.mem_filterMap.mpr ⟨ev, hev, ?_⟩
  cases ev with
  | element m tag => exact hn
  | _ => cases hn

/-- If no node is made twice, none is in the first part. -/
theorem Fresh.left {a b : List SinkEvent} (h : Fresh (a ++ b)) : Fresh a := by
  obtain ⟨hnodup, hnone⟩ := h
  simp only [made_append, List.mem_append, not_or] at hnodup hnone
  exact ⟨hnodup.of_append_left, hnone.1⟩

/-- Nor is one in the second. -/
theorem Fresh.right {a b : List SinkEvent} (h : Fresh (a ++ b)) : Fresh b := by
  obtain ⟨hnodup, hnone⟩ := h
  simp only [made_append, List.mem_append, not_or] at hnodup hnone
  exact ⟨hnodup.of_append_right, hnone.2⟩

/-- What was made before is not made again. -/
theorem Fresh.notMem {a b : List SinkEvent} (h : Fresh (a ++ b)) (hn : n ∈ made a) :
    n ∉ made b := by
  have hnodup := h.nodup
  rw [made_append] at hnodup
  exact List.disjoint_of_nodup_append hnodup hn

/-- Requests keep to the protocol when the first part does, and the second does behind it. -/
theorem follows_append {a b : List SinkEvent} :
    Follows roots pre (a ++ b) ↔ Follows roots pre a ∧ Follows roots (pre ++ a) b := by
  induction a generalizing pre with
  | nil => simp [Follows]
  | cons ev a ih => simp [Follows, ih, and_assoc]

/-- A request among others was allowed when its turn came. -/
theorem Follows.allowed {a b : List SinkEvent} {ev : SinkEvent}
    (h : Follows roots pre (a ++ ev :: b)) : Allowed roots (pre ++ a) ev :=
  (follows_append.mp h).2.1

/-- Only nodes that were made are appended. -/
theorem Follows.made_of_children (h : Follows roots pre events) (hn : n ∈ children events) :
    n ∈ made (pre ++ events) := by
  obtain ⟨ev, hev, hc⟩ := List.mem_filterMap.mp hn
  obtain ⟨a, b, rfl⟩ := List.append_of_mem hev
  cases ev with
  | append p c =>
      cases hc
      -- The request was allowed, so the child had been made before it.
      have hmade := h.allowed.1
      rw [← List.append_assoc, made_append]
      exact List.mem_append_left _ hmade
  | _ => cases hc

/-- Nodes are appended only to roots and to nodes that were made. -/
theorem Follows.made_of_parents (h : Follows roots pre events) (hn : n ∈ parents events) :
    n ∈ roots ∨ n ∈ made (pre ++ events) := by
  obtain ⟨ev, hev, hp⟩ := List.mem_filterMap.mp hn
  obtain ⟨a, b, rfl⟩ := List.append_of_mem hev
  cases ev with
  | append p c =>
      cases hp
      refine h.allowed.2.2.2.imp id fun hparent => ?_
      rw [← List.append_assoc, made_append]
      exact List.mem_append_left _ (made_of_elements hparent.1)
  | _ => cases hp

/-- A request that is allowed after `pre` is allowed after `before ++ pre`, if `before` used
no node that `pre` made. -/
private theorem Allowed.shift {before : List SinkEvent} {ev : SinkEvent}
    (h : Allowed [] pre ev)
    (hbefore : ∀ n ∈ made pre, n ∉ children before ∧ n ∉ parents before) :
    Allowed roots (before ++ pre) ev := by
  cases ev with
  | element m tag => trivial
  | text m s => trivial
  | setAttribute m name value =>
      obtain ⟨helement, hchild, hparent⟩ := h
      obtain ⟨hchild', hparent'⟩ := hbefore m (made_of_elements helement)
      simp only [Allowed, elements_append, children_append, parents_append, List.mem_append,
        not_or]
      exact ⟨Or.inr helement, ⟨hchild', hchild⟩, hparent', hparent⟩
  | append p c =>
      obtain ⟨hmade, hchild, hne, hroot | ⟨helement, hparent⟩⟩ := h
      · cases hroot
      · -- Without roots the parent is an element of `pre`, as the child is a node of it.
        obtain ⟨hchild', -⟩ := hbefore c hmade
        obtain ⟨hparent', -⟩ := hbefore p (made_of_elements helement)
        simp only [Allowed, made_append, elements_append, children_append, List.mem_append,
          not_or]
        exact ⟨Or.inr hmade, ⟨hchild', hchild⟩, hne, Or.inr ⟨Or.inr helement, hparent', hparent⟩⟩

/-- Requests that touch only nodes that they make may come after any others, if these used
none of the nodes. -/
theorem Follows.shift {before : List SinkEvent} (h : Follows [] pre events)
    (hbefore : ∀ n ∈ made (pre ++ events), n ∉ children before ∧ n ∉ parents before) :
    Follows roots (before ++ pre) events := by
  induction events generalizing pre with
  | nil => trivial
  | cons ev events ih =>
      refine ⟨h.1.shift fun n hn => hbefore n ?_, ?_⟩
      · rw [made_append]
        exact List.mem_append_left _ hn
      · have hrest : ∀ n ∈ made ((pre ++ [ev]) ++ events),
            n ∉ children before ∧ n ∉ parents before := by
          rw [List.append_assoc]
          exact hbefore
        rw [List.append_assoc]
        exact ih h.2 hrest

/-- Requests that keep to the protocol may be followed by requests that touch only nodes that
they make, if no node is made twice and the roots are not made at all. -/
theorem Follows.append (h : Follows roots [] events) (h' : Follows [] [] events')
    (hfresh : Fresh (events ++ events')) (hroots : ∀ r ∈ roots, r ∉ made events') :
    Follows roots [] (events ++ events') := by
  refine follows_append.mpr ⟨h, ?_⟩
  rw [List.nil_append, ← List.append_nil events]
  refine h'.shift fun n hn => ⟨fun hchild => ?_, fun hparent => ?_⟩
  · exact hfresh.notMem (h.made_of_children hchild) hn
  · rcases h.made_of_parents hparent with hroot | hmade
    · exact hroots n hroot hn
    · exact hfresh.notMem hmade hn

/-- After a node has been appended, no request is about it any more. -/
theorem Follows.not_touches {a b : List SinkEvent} {c : NodeRef}
    (h : Follows roots [] (a ++ .append parent c :: b))
    (hfresh : Fresh (a ++ .append parent c :: b)) (hroots : c ∉ roots) {ev : SinkEvent}
    (hev : ev ∈ b) : ¬ Touches c ev := by
  have hmade : c ∈ made a := h.allowed.1
  have hagain : c ∉ made b := hfresh.notMem hmade
  obtain ⟨b₁, b₂, rfl⟩ := List.append_of_mem hev
  -- When the later request is made, the node is among those that have been appended.
  have hchild : c ∈ children (a ++ .append parent c :: b₁) := by
    rw [children_append]
    exact List.mem_append_right _ List.mem_cons_self
  have hallowed : Allowed roots (a ++ .append parent c :: b₁) ev := by
    rw [← List.cons_append, ← List.append_assoc] at h
    exact h.allowed
  intro htouches
  cases ev with
  | element m tag =>
      cases htouches
      rw [made_append] at hagain
      exact hagain (List.mem_append_right _ List.mem_cons_self)
  | text m s =>
      cases htouches
      rw [made_append] at hagain
      exact hagain (List.mem_append_right _ List.mem_cons_self)
  | setAttribute m name value =>
      cases htouches
      exact hallowed.2.1 hchild
  | append p d =>
      rcases htouches with rfl | rfl
      · rcases hallowed.2.2.2 with hroot | ⟨-, hfree⟩
        · exact hroots hroot
        · exact hfree hchild
      · exact hallowed.2.1 hchild

/-! ### Runs that leave nodes behind -/

/-- The requests touch only nodes that they make themselves, and `nodes` are some of these,
not appended yet. -/
structure Leaves (events : List SinkEvent) (nodes : List NodeRef) : Prop where
  follows : Follows [] [] events
  nodup : nodes.Nodup
  made : ∀ n ∈ nodes, n ∈ made events
  free : ∀ n ∈ nodes, n ∉ children events

namespace Leaves

variable {nodes nodes' : List NodeRef}

/-- Where no request is made, no node is left behind. -/
theorem nil : Leaves [] [] :=
  ⟨trivial, .nil, nofun, nofun⟩

/-- Nodes may be forgotten. -/
theorem forget (h : Leaves events nodes) : Leaves events [] :=
  ⟨h.follows, .nil, nofun, nofun⟩

/-- Two runs one after the other leave the nodes of both. -/
theorem append (h : Leaves events nodes) (h' : Leaves events' nodes')
    (hfresh : Fresh (events ++ events')) : Leaves (events ++ events') (nodes ++ nodes') where
  follows := h.follows.append h'.follows hfresh nofun
  nodup := by
    refine List.nodup_append'.mpr ⟨h.nodup, h'.nodup, fun n hn hn' => ?_⟩
    exact hfresh.notMem (h.made n hn) (h'.made n hn')
  made n hn := by
    rw [made_append]
    exact List.mem_append.mpr ((List.mem_append.mp hn).imp (h.made n) (h'.made n))
  free n hn := by
    -- The requests of one run append nodes of that run only.
    rw [children_append, List.mem_append, not_or]
    rcases List.mem_append.mp hn with hn | hn
    · exact ⟨h.free n hn, fun hc => hfresh.notMem (h.made n hn) (h'.follows.made_of_children hc)⟩
    · exact ⟨fun hc => hfresh.notMem (h.follows.made_of_children hc) (h'.made n hn), h'.free n hn⟩

end Leaves

/-! ### Runs that append nodes to a parent -/

/-- The requests append `nodes` to `parent` in order, with new texts in between. -/
inductive Feeds (parent : NodeRef) : List NodeRef → List SinkEvent → Prop where
  | nil : Feeds parent [] []
  | node {nodes : List NodeRef} {events : List SinkEvent} (n : NodeRef)
      (h : Feeds parent nodes events) : Feeds parent (n :: nodes) (.append parent n :: events)
  | text {nodes : List NodeRef} {events : List SinkEvent} (n : NodeRef) (s : String)
      (h : Feeds parent nodes events) :
      Feeds parent nodes (.text n s :: .append parent n :: events)

namespace Feeds

variable {nodes nodes' : List NodeRef}

/-- What is appended to a parent may come after what is appended to it. -/
theorem append (h : Feeds parent nodes events) (h' : Feeds parent nodes' events') :
    Feeds parent (nodes ++ nodes') (events ++ events') := by
  induction h with
  | nil => exact h'
  | node n _ ih => exact .node n ih
  | text n s _ ih => exact .text n s ih

/-- What is appended is one of the nodes or a new text. -/
theorem mem_children (h : Feeds parent nodes events) (hn : n ∈ children events) :
    n ∈ nodes ∨ n ∈ made events := by
  induction h with
  | nil => cases hn
  | node m _ ih =>
      rcases List.mem_cons.mp hn with rfl | hn
      · exact Or.inl List.mem_cons_self
      · exact (ih hn).imp (List.mem_cons_of_mem m) id
  | text m s _ ih =>
      rcases List.mem_cons.mp hn with rfl | hn
      · exact Or.inr List.mem_cons_self
      · exact (ih hn).imp id (List.mem_cons_of_mem m)

end Feeds

/-- After the requests `pre`, the nodes may be appended to the parent one after another. -/
structure Ready (roots : List NodeRef) (parent : NodeRef) (pre : List SinkEvent)
    (nodes : List NodeRef) : Prop where
  follows : Follows roots [] pre
  parent_ok : parent ∈ roots ∨ parent ∈ elements pre ∧ parent ∉ children pre
  nodup : nodes.Nodup
  made : ∀ n ∈ nodes, n ∈ made pre
  free : ∀ n ∈ nodes, n ∉ children pre
  parent_notMem : parent ∉ nodes

namespace Ready

variable {nodes : List NodeRef}

/-- The first node is appended, and the others may be appended then. -/
theorem append (h : Ready roots parent pre (n :: nodes)) :
    Ready roots parent (pre ++ [.append parent n]) nodes := by
  obtain ⟨hn, hnodup⟩ := List.nodup_cons.mp h.nodup
  obtain ⟨hne, hrest⟩ := not_or.mp (mt List.mem_cons.mpr h.parent_notMem)
  have hallowed : Allowed roots pre (.append parent n) :=
    ⟨h.made n List.mem_cons_self, h.free n List.mem_cons_self, hne, h.parent_ok⟩
  have hchildren : children (pre ++ [.append parent n]) = children pre ++ [n] :=
    children_append pre _
  -- Neither the parent nor a node further on is the child that has just been appended.
  refine ⟨follows_append.mpr ⟨h.follows, hallowed, trivial⟩, ?_, hnodup, ?_, ?_, hrest⟩
  · refine h.parent_ok.imp id fun ⟨helement, hfree⟩ => ⟨?_, ?_⟩
    · rw [elements_append]
      exact List.mem_append_left _ helement
    · rw [hchildren, List.mem_append, List.mem_singleton, not_or]
      exact ⟨hfree, hne⟩
  · intro m hm
    rw [made_append]
    exact List.mem_append_left _ (h.made m (List.mem_cons_of_mem n hm))
  · intro m hm
    rw [hchildren, List.mem_append, List.mem_singleton, not_or]
    exact ⟨h.free m (List.mem_cons_of_mem n hm), fun heq => hn (heq ▸ hm)⟩

/-- A new text is made, and may be appended before the others. -/
theorem text (h : Ready roots parent pre nodes) (hn : n ∉ SinkEvent.made pre)
    (hne : parent ≠ n) (s : String) :
    Ready roots parent (pre ++ [.text n s]) (n :: nodes) := by
  -- Making a text appends nothing, and adds itself to what was made.
  have hchildren : children (pre ++ [.text n s]) = children pre := by
    rw [children_append]
    exact List.append_nil _
  have hmade : SinkEvent.made (pre ++ [.text n s]) = SinkEvent.made pre ++ [n] :=
    made_append pre _
  refine ⟨follows_append.mpr ⟨h.follows, trivial, trivial⟩, ?_, ?_, ?_, ?_, ?_⟩
  · rw [hchildren, elements_append]
    exact h.parent_ok.imp id fun hp => ⟨List.mem_append_left _ hp.1, hp.2⟩
  · exact List.nodup_cons.mpr ⟨fun hm => hn (h.made n hm), h.nodup⟩
  · intro m hm
    rw [hmade, List.mem_append, List.mem_singleton]
    rcases List.mem_cons.mp hm with rfl | hm
    · exact Or.inr rfl
    · exact Or.inl (h.made m hm)
  · intro m hm
    rw [hchildren]
    rcases List.mem_cons.mp hm with rfl | hm
    · exact fun hc => hn (h.follows.made_of_children hc)
    · exact h.free m hm
  · intro hm
    rcases List.mem_cons.mp hm with heq | hm
    · exact hne heq
    · exact h.parent_notMem hm

/-- Where nodes may be appended to a parent, a run that does so keeps to the protocol. -/
theorem feed (h : Ready roots parent pre nodes) (hfeeds : Feeds parent nodes events)
    (hparent : parent ∉ SinkEvent.made events) (hfresh : Fresh (pre ++ events)) :
    Follows roots [] (pre ++ events) := by
  induction hfeeds generalizing pre with
  | nil =>
      rw [List.append_nil]
      exact h.follows
  | node n _ ih =>
      rw [List.append_cons] at hfresh ⊢
      exact ih h.append hparent hfresh
  | text n s _ ih =>
      -- The text is made and appended at once.
      obtain ⟨hne, hrest⟩ := not_or.mp (mt List.mem_cons.mpr hparent)
      have hn : n ∉ SinkEvent.made pre := fun hm => hfresh.notMem hm List.mem_cons_self
      rw [List.append_cons, List.append_cons] at hfresh ⊢
      exact ih (h.text hn hne s).append hrest hfresh

end Ready

/-- An element that was left behind may get the nodes that were left behind after it. It is
still left behind then. -/
theorem Leaves.feed {nodes : List NodeRef} (h : Leaves pre (n :: nodes)) (hn : n ∈ elements pre)
    (hfeeds : Feeds n nodes events) (hfresh : Fresh (pre ++ events)) :
    Leaves (pre ++ events) [n] := by
  obtain ⟨hnotMem, hnodup⟩ := List.nodup_cons.mp h.nodup
  have hfree := h.free n List.mem_cons_self
  have hnew : n ∉ SinkEvent.made events := hfresh.notMem (made_of_elements hn)
  have hready : Ready [] n pre nodes :=
    { follows := h.follows
      parent_ok := Or.inr ⟨hn, hfree⟩
      nodup := hnodup
      made := fun m hm => h.made m (List.mem_cons_of_mem n hm)
      free := fun m hm => h.free m (List.mem_cons_of_mem n hm)
      parent_notMem := hnotMem }
  refine ⟨hready.feed hfeeds hnew hfresh, List.nodup_singleton n, ?_, ?_⟩
  · intro m hm
    rw [List.mem_singleton.mp hm, made_append]
    exact List.mem_append_left _ (made_of_elements hn)
  · intro m hm
    rw [List.mem_singleton.mp hm, children_append, List.mem_append, not_or]
    exact ⟨hfree, fun hc => (hfeeds.mem_children hc).elim hnotMem hnew⟩

end SinkEvent

end TagScript
