import TagScript.Proofs.Eval.Contract
import TagScript.Proofs.Eval.Recording
import TagScript.Proofs.Sink.Html

/-!
# `TagScript.Proofs.Eval.SinkProtocol`: a rendering uses every output node once

A rendering asks its sink for nodes and appends them to one another. It sets the attributes
of an element right after it has made it, appends children to it while it evaluates the
body, and leaves it in its result. The node is then appended by whoever gets the result, or
by nobody. No other node is ever touched. So the requests of a rendering keep to the
protocol of `SinkEvent.Follows`, whether it ends well or stops with a fault
(`render_sinkProtocol`).

The contract `linear` says this of every evaluation: it makes requests that touch only nodes
that they make, and the nodes in its results are among these, each once and not yet
appended. The only thing that it takes for granted is that the sink makes no node twice.
-/

set_option autoImplicit false

namespace TagScript

open Log Scope SinkEvent Markup

variable {σ : Type}

/-- From `s` to `s'` the recording sink got requests that touch only nodes that they make.
If no node is made twice, then `nodes` are some of these, not appended yet. -/
def Sink.Uses (sink : Sink σ) (s s' : σ × List SinkEvent) (nodes : List NodeRef) : Prop :=
  ∃ events, sink.Records s events s' ∧ (Fresh events → Leaves events nodes)

/-- The requests that make an element with its attributes. -/
def opening (n : NodeRef) (tag : String) (attributes : List Attribute) : List SinkEvent :=
  .element n tag :: attributes.map fun a => .setAttribute n a.name a.value

section

variable {sink : Sink σ} {s s' s'' : σ × List SinkEvent} {ns ns' : List NodeRef}

/-! ### Requests that touch only nodes that they make -/

namespace Sink.Uses

/-- Where no request is made, no node is left behind. -/
theorem refl (sink : Sink σ) (s : σ × List SinkEvent) : sink.Uses s s [] :=
  ⟨[], .refl sink s, fun _ => .nil⟩

/-- The nodes of two such runs are left behind by both together. -/
theorem trans (h : sink.Uses s s' ns) (h' : sink.Uses s' s'' ns') :
    sink.Uses s s'' (ns ++ ns') := by
  obtain ⟨a, hrec, hleaves⟩ := h
  obtain ⟨b, hrec', hleaves'⟩ := h'
  refine ⟨a ++ b, hrec.trans hrec', fun hfresh => ?_⟩
  exact (hleaves hfresh.left).append (hleaves' hfresh.right) hfresh

/-- Nodes that are left behind may be forgotten. -/
theorem forget (h : sink.Uses s s' ns) : sink.Uses s s' [] := by
  obtain ⟨events, hrec, hleaves⟩ := h
  exact ⟨events, hrec, fun hfresh => (hleaves hfresh).forget⟩

end Sink.Uses

/-- A node that was made is a node, and it is the one in a result that holds it. -/
private theorem nodesAll_output {events : List SinkEvent} {n : NodeRef} (hfresh : Fresh events)
    (hn : n ∈ made events) : Result.nodesAll [.output n] = [n] := by
  cases n with
  -- Where the sink made nothing there would be nothing to leave behind.
  | none => exact absurd hn hfresh.none_notMem
  | some i => rfl

/-- A text is left behind by the request that makes it. -/
private theorem uses_text (sink : Sink σ) (t : String) (s : σ × List SinkEvent) :
    sink.Uses s (sink.recorded.text t s).2
      (Result.nodesAll [.output (sink.recorded.text t s).1]) := by
  refine ⟨_, .text sink t s, fun hfresh => ?_⟩
  rw [nodesAll_output hfresh List.mem_cons_self]
  exact ⟨⟨trivial, trivial⟩, List.nodup_singleton _, fun _ hn => hn, fun _ _ hc => by cases hc⟩

/-- The attributes are set by one request each. -/
private theorem records_dress (sink : Sink σ) (n : NodeRef) (attributes : List Attribute)
    (s : σ × List SinkEvent) :
    sink.Records s (attributes.map fun a => .setAttribute n a.name a.value)
      (sink.recorded.dress n attributes s) := by
  induction attributes generalizing s with
  | nil => exact .refl sink s
  | cons a attributes ih => exact (Sink.Records.setAttribute sink n a.name a.value s).trans (ih _)

/-- An element is made by the requests that open it. -/
private theorem records_opening (sink : Sink σ) (tag : String) (attributes : List Attribute)
    (s : σ × List SinkEvent) :
    sink.Records s (opening (sink.recorded.element tag s).1 tag attributes)
      (sink.recorded.dress (sink.recorded.element tag s).1 attributes
        (sink.recorded.element tag s).2) :=
  (Sink.Records.element sink tag s).trans (records_dress sink _ attributes _)

/-- Attributes may be set on an element as long as nothing has been appended. -/
private theorem follows_dress (n : NodeRef) (attributes : List Attribute)
    {pre : List SinkEvent} (hn : n ∈ elements pre) (hchildren : children pre = [])
    (hparents : parents pre = []) :
    Follows [] pre (attributes.map fun a => .setAttribute n a.name a.value) := by
  induction attributes generalizing pre with
  | nil => trivial
  | cons a attributes ih =>
      refine ⟨⟨hn, ?_, ?_⟩, ih ?_ ?_ ?_⟩
      · rw [hchildren]
        exact List.not_mem_nil
      · rw [hparents]
        exact List.not_mem_nil
      · rw [elements_append]
        exact List.mem_append_left _ hn
      · rw [children_append, hchildren]
        rfl
      · rw [parents_append, hparents]
        rfl

/-- Opening an element appends nothing. -/
private theorem children_opening (n : NodeRef) (tag : String) (attributes : List Attribute) :
    children (opening n tag attributes) = [] := by
  simp [children, opening]

/-- An element is left behind by the requests that make it with its attributes. -/
private theorem leaves_opening (n : NodeRef) (tag : String) (attributes : List Attribute) :
    Leaves (opening n tag attributes) [n] where
  follows := ⟨trivial, follows_dress n attributes List.mem_cons_self rfl rfl⟩
  nodup := List.nodup_singleton n
  made m hm := List.mem_singleton.mp hm ▸ List.mem_cons_self
  free m _ := by
    rw [children_opening]
    exact List.not_mem_nil

/-- An element is made around a body, and what the body leaves behind goes into it. -/
private theorem uses_element (tag : String) (attributes : List Attribute) {rs : List Result}
    (h : sink.Uses
      (sink.recorded.dress (sink.recorded.element tag s).1 attributes
        (sink.recorded.element tag s).2) s' (Result.nodesAll rs)) :
    sink.Uses s
      ((bodyResult rs).flatten sink.recorded (sink.recorded.element tag s).1 s')
      (Result.nodesAll [.output (sink.recorded.element tag s).1]) := by
  obtain ⟨body, hrec, hleaves⟩ := h
  obtain ⟨fed, hfeeds, hrec'⟩ :=
    (bodyResult rs).records_flatten sink (sink.recorded.element tag s).1 s'
  have hnodes : (bodyResult rs).nodes = Result.nodesAll rs := by cases rs <;> rfl
  -- The element is opened, the body leaves its nodes, and these are appended to the element.
  have hopen := records_opening sink tag attributes s
  refine ⟨_, (hopen.trans hrec).trans hrec', fun hfresh => ?_⟩
  have hn : (sink.recorded.element tag s).1
      ∈ elements (opening (sink.recorded.element tag s).1 tag attributes ++ body) := by
    rw [elements_append]
    exact List.mem_append_left _ List.mem_cons_self
  have hmade := List.mem_append_left (made fed) (made_of_elements hn)
  rw [← made_append] at hmade
  rw [nodesAll_output hfresh hmade]
  have hleft := (leaves_opening _ tag attributes).append (hleaves hfresh.left.right) hfresh.left
  exact hleft.feed hn (hnodes ▸ hfeeds) hfresh

end

/-! ### Evaluations -/

/-- An evaluation may make requests that touch only nodes that they make, and leave such
nodes in its results. -/
def linear (sink : Sink σ) : Contract (σ × List SinkEvent) where
  yields _ w rs w' := sink.Uses w.sink w'.sink (Result.nodesAll rs)
  stops _ w _ w' := sink.Uses w.sink w'.sink []

/-- Every evaluation does so. -/
theorem linear_lawful (cfg : Setting σ) : (linear cfg.sink).Lawful cfg.recorded where
  refl _ w := .refl cfg.sink w.sink
  append h₁ h₂ := by
    show cfg.sink.Uses _ _ _
    rw [Result.nodesAll_append]
    exact h₁.trans h₂
  stop h₁ h₂ := h₁.forget.trans h₂
  fault _ w _ := .refl cfg.sink w.sink
  discard h := h.forget
  none h := h
  scalar _ h := h
  list {_ _ rs _} h := by
    show cfg.sink.Uses _ _ (Result.nodesAll rs ++ [])
    rw [List.append_nil]
    exact h
  note _ w _ := .refl cfg.sink w.sink
  poll _ w := .refl cfg.sink w.sink
  change {_ w _} _ := .refl cfg.sink w.sink
  text _ w t := uses_text cfg.sink t w.sink
  element tag attributes h := uses_element tag attributes h
  element_stop {_ w _ _} tag attributes h := by
    -- The element has been opened, and is left behind by nobody when its body stops.
    have hopen : cfg.sink.Uses w.sink _ [_] :=
      ⟨_, records_opening cfg.sink tag attributes w.sink, fun _ => leaves_opening _ tag attributes⟩
    exact hopen.forget.trans h
  enter h := h
  boundary _ h := h
  enter_stop _ h := h

/-- From `s` to `s'` the recording sink got requests that may come after any others that keep
to the protocol for a root. -/
def Sink.Renders (sink : Sink σ) (root : NodeRef) (s s' : σ × List SinkEvent) : Prop :=
  ∃ events, sink.Records s events s' ∧ ∀ pre, Follows [root] [] pre → Fresh (pre ++ events) →
    root ∉ made events → Follows [root] [] (pre ++ events)

namespace Sink.Renders

variable {sink : Sink σ} {root : NodeRef} {s s' s'' : σ × List SinkEvent}

/-- Nothing is done where no request is made. -/
theorem refl (sink : Sink σ) (root : NodeRef) (s : σ × List SinkEvent) :
    sink.Renders root s s :=
  ⟨[], .refl sink s, fun pre hpre _ _ => (List.append_nil pre).symm ▸ hpre⟩

/-- Requests of a rendering may come after requests of one. -/
theorem trans (h : sink.Renders root s s') (h' : sink.Renders root s' s'') :
    sink.Renders root s s'' := by
  obtain ⟨a, hrec, hfollows⟩ := h
  obtain ⟨b, hrec', hfollows'⟩ := h'
  refine ⟨a ++ b, hrec.trans hrec', fun pre hpre hfresh hroot => ?_⟩
  rw [made_append, List.mem_append, not_or] at hroot
  rw [← List.append_assoc] at hfresh ⊢
  exact hfollows' _ (hfollows pre hpre hfresh.left hroot.1) hfresh hroot.2

/-- An evaluation that stops leaves nodes that are never appended. -/
theorem of_uses {nodes : List NodeRef} (h : sink.Uses s s' nodes) : sink.Renders root s s' := by
  obtain ⟨events, hrec, hleaves⟩ := h
  refine ⟨events, hrec, fun pre hpre hfresh hroot => ?_⟩
  refine hpre.append (hleaves hfresh.right).follows hfresh fun r hr => ?_
  rw [List.mem_singleton.mp hr]
  exact hroot

/-- What an evaluation leaves in its result may be appended to the root. -/
theorem flatten {r : Result} (h : sink.Uses s s' r.nodes) :
    sink.Renders root s (r.flatten sink.recorded root s') := by
  obtain ⟨events, hrec, hleaves⟩ := h
  obtain ⟨fed, hfeeds, hrec'⟩ := r.records_flatten sink root s'
  refine ⟨events ++ fed, hrec.trans hrec', fun pre hpre hfresh hroot => ?_⟩
  rw [made_append, List.mem_append, not_or] at hroot
  rw [← List.append_assoc] at hfresh ⊢
  have hleft := hleaves hfresh.left.right
  have hroots : ∀ r ∈ [root], r ∉ made events := fun r hr => List.mem_singleton.mp hr ▸ hroot.1
  have hready : Ready [root] root (pre ++ events) r.nodes :=
    { follows := hpre.append hleft.follows hfresh.left hroots
      parent_ok := Or.inl List.mem_cons_self
      nodup := hleft.nodup
      made := by
        intro n hn
        rw [made_append]
        exact List.mem_append_right _ (hleft.made n hn)
      free := by
        intro n hn
        -- What was appended before had been made before, so it is not one of the new nodes.
        rw [children_append, List.mem_append, not_or]
        refine ⟨fun hc => ?_, hleft.free n hn⟩
        exact hfresh.left.notMem (hpre.made_of_children hc) (hleft.made n hn)
      parent_notMem := fun hn => hroot.1 (hleft.made root hn) }
  exact hready.feed hfeeds hroot.2 hfresh

end Sink.Renders

/-- Every rendering keeps to the protocol, node by node. -/
private theorem render_renders (cfg : Setting σ) (scope : Nat) (root : NodeRef)
    (nodes : List Node) (w : World (σ × List SinkEvent)) :
    (render cfg.recorded scope root nodes).Ends
      (fun _ w' => cfg.sink.Renders root w.sink w'.sink)
      (fun _ w' => cfg.sink.Renders root w.sink w'.sink) w := by
  have L := linear_lawful cfg
  induction nodes generalizing w with
  | nil => exact .refl cfg.sink root w.sink
  | cons n nodes ih =>
      simp only [render, Run.ends_bind, Run.ends_flatten]
      refine (L.evalNode (L.callUser _) scope n w).mono ?_ ?_
      · intro r w₁ h
        have hnodes : Result.nodesAll [r] = r.nodes := List.append_nil _
        have huses : cfg.sink.Uses w.sink w₁.sink (Result.nodesAll [r]) := h
        rw [hnodes] at huses
        have hflat : cfg.sink.Renders root w.sink _ := .flatten huses
        exact (ih _).mono (fun _ _ hrest => hflat.trans hrest) (fun _ _ hrest => hflat.trans hrest)
      · intro _ w₁ h
        exact .of_uses h

/-! ### Renderings -/

/-- The requests of a rendering take its sink from where it is before to where it is
after. -/
theorem renderCalls_takes (cfg : Setting σ) (scope : Nat) (root : NodeRef) (nodes : List Node)
    (w : World σ) :
    cfg.sink.Takes w.sink (renderCalls cfg scope root nodes w)
      ((render cfg scope root nodes).run.run w).2.sink := by
  obtain ⟨events, hrec, -⟩ := (render_renders cfg scope root nodes w.recorded).state
  have hevents : renderCalls cfg scope root nodes w = events := hrec.written
  have hafter := congrArg World.sink (render_recorded cfg scope root nodes w).2
  rw [hevents, hafter]
  exact hrec.takes

/-- The requests of a rendering keep to the protocol. -/
private theorem follows_renderCalls (cfg : Setting σ) (scope : Nat) {root : NodeRef}
    {nodes : List Node} {w : World σ} (hfresh : Fresh (renderCalls cfg scope root nodes w))
    (hroot : root ∉ made (renderCalls cfg scope root nodes w)) :
    Follows [root] [] (renderCalls cfg scope root nodes w) := by
  obtain ⟨events, hrec, hfollows⟩ := (render_renders cfg scope root nodes w.recorded).state
  have hevents : renderCalls cfg scope root nodes w = events := hrec.written
  rw [hevents] at hfresh hroot ⊢
  exact hfollows [] trivial hfresh hroot

/-- **The protocol of output nodes.** Take a rendering of any nodes into a root, in any
state, whether it ends well or stops with a fault. If the sink makes a new node whenever it
is asked for one, then every request is allowed when its turn comes, and no node is touched
after it has been appended. With the markup sink, which makes new nodes, every child has no
parent at the moment when it is appended, so that the sink never has to refuse one. -/
theorem render_sinkProtocol (scope : Nat) (root : NodeRef) (nodes : List Node) :
    (∀ {σ : Type} (cfg : Setting σ) (w : World σ),
      Fresh (renderCalls cfg scope root nodes w) →
      root ∉ made (renderCalls cfg scope root nodes w) →
      Follows [root] [] (renderCalls cfg scope root nodes w) ∧
      ∀ pre parent child post,
        renderCalls cfg scope root nodes w = pre ++ .append parent child :: post →
        ∀ ev ∈ post, ¬ Touches child ev) ∧
    ∀ (limit : Int) (canceled : Cancellation) (w : World Forest),
      (∀ r, root = some r → r < w.sink.size) →
      ∀ pre parent child post,
        renderCalls ⟨.html, limit, canceled⟩ scope root nodes w
          = pre ++ .append parent (some child) :: post →
        ∃ f, Sink.html.Takes w.sink pre f ∧ f.parentOf child = none := by
  constructor
  · intro σ cfg w hfresh hroot
    have hfollows := follows_renderCalls cfg scope hfresh hroot
    refine ⟨hfollows, fun pre parent child post hcalls ev hev => ?_⟩
    rw [hcalls] at hfollows hfresh hroot
    refine hfollows.not_touches hfresh ?_ hev
    intro hchild
    have hmade : child ∈ made pre := hfollows.allowed.1
    rw [List.mem_singleton.mp hchild] at hmade
    rw [made_append] at hroot
    exact hroot (List.mem_append_left _ hmade)
  · intro limit canceled w hexists pre parent child post hcalls
    have htakes := renderCalls_takes ⟨.html, limit, canceled⟩ scope root nodes w
    -- The markup sink numbers new nodes from the size of its store on. The root is below.
    have hroot : root ∉ made (renderCalls ⟨.html, limit, canceled⟩ scope root nodes w) := by
      intro hmade
      obtain ⟨r, hr, hle⟩ := htakes.made_html hmade
      exact Nat.not_le_of_lt (hexists r hr) hle
    have hfollows := follows_renderCalls _ scope htakes.fresh_html hroot
    rw [hcalls] at htakes hfollows
    obtain ⟨f, hpre, -⟩ := htakes.split
    exact ⟨f, hpre, hpre.parentOf_eq_none_html hfollows.allowed⟩

set_option maxRecDepth 4000 in
/-- An element with an attribute and a text in it: the text is appended to the element, and
last the element to the root. -/
theorem render_sinkProtocol_element :
    let nodes : List Node := [.element "p" [⟨"id", "a"⟩] [.value (some (.text "x"))]]
    let w : World Forest := ⟨Tree.root [] 0, #[], (Forest.empty.create .fragment).2, 0⟩
    let calls := renderCalls ⟨.html, 10, false⟩ 0 (some 0) nodes w
    calls = [.element (some 1) "p", .setAttribute (some 1) "id" "a", .text (some 2) "x"]
        ++ .append (some 1) (some 2) :: [.append (some 0) (some 1)] ∧
      Fresh calls ∧ some 0 ∉ made calls ∧ 0 < w.sink.size ∧ Follows [some 0] [] calls ∧
      ¬ Touches (some 2) (.append (some 0) (some 1)) ∧
      ∃ f, Sink.html.Takes w.sink
        [.element (some 1) "p", .setAttribute (some 1) "id" "a", .text (some 2) "x"] f ∧
        f.parentOf 2 = none := by
  intro nodes w calls
  have hcalls : calls = [.element (some 1) "p", .setAttribute (some 1) "id" "a",
      .text (some 2) "x"] ++ .append (some 1) (some 2) :: [.append (some 0) (some 1)] := rfl
  have hfresh : Fresh calls := by
    rw [hcalls]
    exact ⟨by decide, by decide⟩
  have hroot : some 0 ∉ made calls := by
    rw [hcalls]
    decide
  have hexists : ∀ r, some 0 = some r → r < w.sink.size := by
    intro r hr
    cases hr
    decide
  obtain ⟨hany, hhtml⟩ := render_sinkProtocol 0 (some 0) nodes
  obtain ⟨hfollows, htouches⟩ := hany ⟨.html, 10, false⟩ w hfresh hroot
  exact ⟨hcalls, hfresh, hroot, by decide, hfollows,
    htouches _ _ _ _ hcalls _ List.mem_cons_self, hhtml 10 false w hexists _ _ _ _ hcalls⟩

end TagScript
