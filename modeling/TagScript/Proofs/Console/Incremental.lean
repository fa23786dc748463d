import TagScript.Console.Session
import TagScript.Proofs.Markup.Relocation
import TagScript.Proofs.Markup.Writing

/-!
# `TagScript.Proofs.Console.Incremental`: fragments one by one, or all at once

A session evaluates one fragment after another in one root scope, each into a markup fragment of
its own. A rendering of all their nodes together puts everything into one markup fragment, and
gives no markup at all after a fault.

`Session.InStep` says that a session and such a rendering have come to the same point. A fragment
keeps them in step, and what the session shows for it is what the rendering adds to its root
(`InStep.fragment`). So do several fragments, up to the first that fails (`InStep.fragments_ok`,
`InStep.fragments_error`). From a new session and a new environment on, the two agree
(`session_agrees`).
-/

set_option autoImplicit false

namespace TagScript

open Markup Markup.Forest

/-! ### Renderings in parts -/

section

variable {σ : Type} {cfg : Setting σ} {scope : Nat} {parent : NodeRef}

/-- The second part of a rendering goes on where the first ends, if that ends well. -/
theorem run_render_append (cfg : Setting σ) (scope : Nat) (parent : NodeRef)
    (nodes rest : List Node) (w : World σ) :
    (render cfg scope parent (nodes ++ rest)).run.run w
      = match (render cfg scope parent nodes).run.run w with
        | (.ok _, w') => (render cfg scope parent rest).run.run w'
        | (.error fault, w') => (.error fault, w') := by
  induction nodes generalizing w with
  | nil => rfl
  | cons n nodes ih =>
      rw [List.cons_append, render, render, Run.run_bind, Run.run_bind]
      rcases (eval cfg scope n).run.run w with ⟨fault | r, w₁⟩
      · rfl
      · dsimp only
        rw [Run.run_bind, Run.run_bind]
        exact ih _

/-- A rendering that stops with a fault does so at a node, behind others that end well. -/
theorem exists_failing {nodes : List Node} {fault : Fault} {w w' : World σ}
    (h : (render cfg scope parent nodes).run.run w = (.error fault, w')) :
    ∃ pre n post w₁, nodes = pre ++ n :: post ∧
      (render cfg scope parent pre).run.run w = (.ok (), w₁) ∧
      (eval cfg scope n).run.run w₁ = (.error fault, w') := by
  induction nodes generalizing w with
  | nil => cases h
  | cons n nodes ih =>
      rw [render, Run.run_bind] at h
      -- The fault is that of the first node, or the rest of the rendering stops with it.
      rcases heval : (eval cfg scope n).run.run w with ⟨f | r, w₁⟩
      · rw [heval] at h
        cases h
        exact ⟨[], n, nodes, w, rfl, rfl, heval⟩
      · rw [heval] at h
        dsimp only at h
        rw [Run.run_bind] at h
        obtain ⟨pre, m, post, w₂, rfl, hpre, hfault⟩ := ih h
        refine ⟨n :: pre, m, post, w₂, rfl, ?_, hfault⟩
        rw [render, Run.run_bind, heval]
        dsimp only
        rw [Run.run_bind]
        exact hpre

/-- With the failing node alone behind it, the part before stops in the same way. -/
theorem run_render_failing {pre : List Node} {n : Node} {fault : Fault} {w w₁ w' : World σ}
    (hpre : (render cfg scope parent pre).run.run w = (.ok (), w₁))
    (hfault : (eval cfg scope n).run.run w₁ = (.error fault, w')) :
    (render cfg scope parent (pre ++ [n])).run.run w = (.error fault, w') := by
  rw [run_render_append, hpre]
  dsimp only
  rw [render, Run.run_bind, hfault]

end

/-- A rendering in a new environment: the markup fragment, how the rendering ended, and the state
after it. -/
def Options.rendering (options : Options) (nodes : List Node) :
    Nat × Except Fault Unit × World Forest :=
  (World.initial options.globals options.fresh Forest.empty).renderFragment options.limit
    options.canceled nodes

/-- What is in the markup fragment when the rendering ends can be written. -/
def Options.Writes (options : Options) (nodes : List Node) : Prop :=
  ((options.rendering nodes).2.2.writeFragment (options.rendering nodes).1).2 = none

/-- A fragment is written without an error when it is one that can be written. -/
theorem writeFragment_eq_none {w : World Forest} {root : Nat} :
    (w.writeFragment root).2 = none ↔ Writable (w.sink.trees root) :=
  Option.map_eq_none_iff

/-- The text of a fragment that can be written. -/
theorem writeFragment_of_writable {w : World Forest} {root : Nat}
    (h : Writable (w.sink.trees root)) :
    w.writeFragment root = (markupOf (w.sink.trees root), none) :=
  Prod.ext rfl (writeFragment_eq_none.mpr h)

/-- A rendering that ends well gives the markup of its fragment. -/
theorem renderNodes_of_ok {options : Options} {nodes : List Node} {root : Nat}
    {w : World Forest} (h : options.rendering nodes = (root, .ok (), w))
    (hwritable : Writable (w.sink.trees root)) :
    (renderNodes options nodes).1 = .ok (markupOf (w.sink.trees root)) := by
  unfold Options.rendering at h
  rw [renderNodes, h]
  dsimp only
  rw [writeFragment_of_writable hwritable]

/-- A rendering that stops gives no markup. -/
theorem renderNodes_of_error {options : Options} {nodes : List Node} {root : Nat}
    {fault : Fault} {w : World Forest} (h : options.rendering nodes = (root, .error fault, w)) :
    (renderNodes options nodes).1 = .error fault.toFailure := by
  unfold Options.rendering at h
  rw [renderNodes, h]

namespace Console.Session

/-- Evaluate fragments one after another. -/
def evalFragments (s : Session) (canceled : Cancellation) : List (List Node) →
    List Reply × Session
  | [] => ([], s)
  | nodes :: rest =>
    let (reply, s) := s.evalNodes canceled nodes
    let (replies, s) := s.evalFragments canceled rest
    (reply :: replies, s)

/-- A session and a rendering have come to the same point: the scopes are the same. -/
structure InStep (s : Session) (limit : Int) (w : World Forest) (root : Nat) : Prop where
  limit : s.limit = limit
  tree : s.world.tree = w.tree
  polls : s.world.polls = w.polls
  root : w.sink.Root root

/-- The failure that an outcome stands for. -/
def failureOf : Except Fault Unit → Option Failure
  | .error fault => some fault.toFailure
  | .ok _ => none

variable {s : Session} {limit : Int} {canceled : Cancellation} {w w' : World Forest} {root : Nat}

/-- A fragment keeps a session in step with a rendering. It shows what the rendering adds to its
root, and fails if the rendering does. -/
theorem InStep.fragment (h : s.InStep limit w root) {nodes : List Node}
    {outcome : Except Fault Unit}
    (hrun : (render ⟨.html, limit, canceled⟩ 0 (some root) nodes).run.run w = (outcome, w')) :
    (s.evalNodes canceled nodes).2.InStep limit w' root ∧
      ∃ ts, w'.sink.trees root = w.sink.trees root ++ ts ∧
        (s.evalNodes canceled nodes).1.markup = markupOf ts ∧
        (Writable ts → (s.evalNodes canceled nodes).1.failure = failureOf outcome) := by
  obtain ⟨rfl, htree, hpolls, hroot⟩ := h
  -- A new fragment in the store changes nothing about the scopes.
  have htree' : s.world.newFragment.2.tree = w.tree := htree
  have hpolls' : s.world.newFragment.2.polls = w.polls := hpolls
  obtain ⟨_, w₁, _, h₁, h₂, hsame⟩ := render_relocated s.limit canceled 0 nodes htree' hpolls'
    (root_newFragment s.world) hroot
  cases hrun.symm.trans h₂
  have hfills := (render_fills s.limit canceled 0 nodes w hroot.lt).state
  rw [hrun] at hfills
  obtain ⟨ts, htrees₁, htrees₂⟩ := hsame.trees
  rw [trees_newFragment, List.nil_append] at htrees₁
  rw [evalNodes, renderFragment_eq, h₁]
  refine ⟨⟨rfl, hsame.tree, hsame.polls, hfills.root hroot⟩, ts, htrees₂, ?_, ?_⟩
  · rw [← htrees₁]
    rfl
  · intro hwritable
    cases outcome with
    | error fault => rfl
    | ok _ => exact writeFragment_eq_none.mpr (htrees₁ ▸ hwritable)

/-- Fragments keep a session in step with a rendering of all their nodes that ends well. What the
session shows is what the rendering adds to its root. -/
theorem InStep.fragments_ok {fragments : List (List Node)} (h : s.InStep limit w root)
    (hrun : (render ⟨.html, limit, canceled⟩ 0 (some root) fragments.flatten).run.run w
      = (.ok (), w')) :
    let shown := s.evalFragments canceled fragments
    shown.2.InStep limit w' root ∧ ∃ ts, w'.sink.trees root = w.sink.trees root ++ ts ∧
      (Writable ts → (∀ reply ∈ shown.1, reply.failure = none) ∧
        String.join (shown.1.map (·.markup)) = markupOf ts) := by
  induction fragments generalizing s w with
  | nil =>
      cases hrun
      exact ⟨h, [], (List.append_nil _).symm, fun _ => ⟨fun _ hr => (nomatch hr), rfl⟩⟩
  | cons nodes rest ih =>
      rw [List.flatten_cons, run_render_append] at hrun
      rcases hnodes : (render ⟨.html, limit, canceled⟩ 0 (some root) nodes).run.run w
        with ⟨_ | _, w₁⟩
      · rw [hnodes] at hrun
        cases hrun
      · rw [hnodes] at hrun
        obtain ⟨hstep, ts, hts, hmarkup, hfailure⟩ := h.fragment hnodes
        -- The rendering adds the trees of this fragment, and behind them those of the rest.
        obtain ⟨hlast, rest_ts, hrest, hshown⟩ := ih hstep hrun
        refine ⟨hlast, ts ++ rest_ts, by rw [hrest, hts, List.append_assoc], fun hwritable => ?_⟩
        obtain ⟨hts_w, hrest_w, happend⟩ := hwritable.append
        obtain ⟨hnone, hjoin⟩ := hshown hrest_w
        refine ⟨fun reply hreply => ?_, ?_⟩
        · rcases List.mem_cons.mp hreply with rfl | hreply
          · exact hfailure hts_w
          · exact hnone reply hreply
        · rw [happend, ← hmarkup, ← hjoin]
          exact String.join_cons

/-- The same for a rendering that stops. The session stays in step with it up to the fragment
that has the failing node, and that fragment fails in the same way. -/
theorem InStep.fragments_error {fragments : List (List Node)} {fault : Fault}
    (h : s.InStep limit w root)
    (hrun : (render ⟨.html, limit, canceled⟩ 0 (some root) fragments.flatten).run.run w
      = (.error fault, w')) :
    ∃ before pre n post after w₁ ts, fragments = before ++ (pre ++ n :: post) :: after ∧
      (render ⟨.html, limit, canceled⟩ 0 (some root) (before.flatten ++ pre)).run.run w
        = (.ok (), w₁) ∧
      (TagScript.eval ⟨.html, limit, canceled⟩ 0 n).run.run w₁ = (.error fault, w') ∧
      w₁.sink.trees root = w.sink.trees root ++ ts ∧
      w'.sink.trees root = w.sink.trees root ++ ts ∧
      let shown := s.evalFragments canceled (before ++ [pre ++ n :: post])
      shown.2.InStep limit w' root ∧
      (Writable ts →
        shown.1.map (·.failure) = List.replicate before.length none ++ [some fault.toFailure] ∧
        String.join (shown.1.map (·.markup)) = markupOf ts) := by
  induction fragments generalizing s w with
  | nil => cases hrun
  | cons nodes rest ih =>
      rw [List.flatten_cons, run_render_append] at hrun
      rcases hnodes : (render ⟨.html, limit, canceled⟩ 0 (some root) nodes).run.run w
        with ⟨_ | _, w₁⟩
      · -- The failing node is in this fragment.
        rw [hnodes] at hrun
        cases hrun
        obtain ⟨hstep, ts, hts, hmarkup, hfailure⟩ := h.fragment hnodes
        obtain ⟨pre, n, post, w₁, rfl, hpre, heval⟩ := exists_failing hnodes
        -- The failing node has added nothing to the root, so what is there is from before it.
        have hroot := ((render_fills limit canceled 0 pre w h.root.lt).of_ok hpre).root h.root
        have hgrows := (eval_grows limit canceled 0 n w₁).of_error heval
        refine ⟨[], pre, n, post, rest, w₁, ts, rfl, hpre, heval, ?_, hts, hstep, ?_⟩
        · rw [← hts, hgrows.trees_eq hroot]
        · intro hwritable
          refine ⟨congrArg (fun f => [f]) (hfailure hwritable), ?_⟩
          rw [← hmarkup]
          exact String.join_cons.trans String.append_empty
      · -- It is in a later one, and this one has ended well.
        rw [hnodes] at hrun
        obtain ⟨hstep, ts, hts, hmarkup, hfailure⟩ := h.fragment hnodes
        obtain ⟨before, pre, n, post, after, w₂, rest_ts, rfl, hpre, heval, hw₂, hw', hlast, hshown⟩ :=
          ih hstep hrun
        refine ⟨nodes :: before, pre, n, post, after, w₂, ts ++ rest_ts, rfl, ?_, heval,
          by rw [hw₂, hts, List.append_assoc], by rw [hw', hts, List.append_assoc], hlast, ?_⟩
        · rw [List.flatten_cons, List.append_assoc, run_render_append, hnodes]
          exact hpre
        · intro hwritable
          obtain ⟨hts_w, hrest_w, happend⟩ := hwritable.append
          obtain ⟨hfailures, hjoin⟩ := hshown hrest_w
          refine ⟨congrArg₂ List.cons (hfailure hts_w) hfailures, ?_⟩
          rw [happend, ← hmarkup, ← hjoin]
          exact String.join_cons

/-- A new session is in step with a rendering that begins in a new environment. -/
theorem InStep.start (options : Options) (level : Int) :
    (Session.start options.globals options.limit level options.fresh).InStep options.limit
      (World.initial options.globals options.fresh Forest.empty).newFragment.2 0 :=
  ⟨rfl, rfl, rfl, root_newFragment (World.initial options.globals options.fresh Forest.empty)⟩

end Console.Session

open Console Console.Session Log

/-- **Fragments one by one agree with all at once.** Take fragments of nodes and any options, so
that what a rendering of all the nodes together builds can be written.

If that rendering ends well, then so does each of the fragments in a new session. What the
session shows, put together, is the markup of the rendering, and both leave the same scopes.

If the rendering stops with a fault, it gives no markup. There is a first node that fails with
this fault. The session fails in the same way at the fragment with that node, and not before.
What it has shown until then, that fragment included, is the markup of the nodes before the
failing one, and both leave the same scopes. -/
theorem session_agrees (options : Options) (level : Int) (fragments : List (List Node))
    (hwrites : options.Writes fragments.flatten) :
    let session := Session.start options.globals options.limit level options.fresh
    let batch := options.rendering fragments.flatten
    (batch.2.1 = .ok () →
      let shown := session.evalFragments options.canceled fragments
      (∀ reply ∈ shown.1, reply.failure = none) ∧
      (renderNodes options fragments.flatten).1 = .ok (String.join (shown.1.map (·.markup))) ∧
      shown.2.world.tree = batch.2.2.tree) ∧
    ∀ fault, batch.2.1 = .error fault →
      (renderNodes options fragments.flatten).1 = .error fault.toFailure ∧
      ∃ before pre n post after, fragments = before ++ (pre ++ n :: post) :: after ∧
        (options.rendering (before.flatten ++ pre ++ [n])).2.1 = .error fault ∧
        let shown := session.evalFragments options.canceled (before ++ [pre ++ n :: post])
        shown.1.map (·.failure) = List.replicate before.length none ++ [some fault.toFailure] ∧
        (renderNodes options (before.flatten ++ pre)).1
          = .ok (String.join (shown.1.map (·.markup))) ∧
        shown.2.world.tree = batch.2.2.tree := by
  intro session batch
  let w := (World.initial options.globals options.fresh Forest.empty).newFragment.2
  have hstart : session.InStep options.limit w 0 := .start options level
  have hempty : w.sink.trees 0 = [] :=
    trees_newFragment (World.initial options.globals options.fresh Forest.empty)
  -- A rendering in the new environment is a rendering into the fragment with the number zero.
  have hrendering : ∀ nodes, options.rendering nodes
      = (0, (render ⟨.html, options.limit, options.canceled⟩ 0 (some 0) nodes).run.run w) :=
    renderFragment_eq (World.initial options.globals options.fresh Forest.empty) options.limit
      options.canceled
  have hwritable := writeFragment_eq_none.mp hwrites
  rw [hrendering] at hwritable
  rcases hrun : (render ⟨.html, options.limit, options.canceled⟩ 0 (some 0)
    fragments.flatten).run.run w with ⟨fault | _, w'⟩
  all_goals
    have hbatch := hrendering fragments.flatten
    rw [hrun] at hbatch hwritable
    simp only [batch, hbatch]
  · refine ⟨fun hok => (nomatch hok), ?_⟩
    rintro _ ⟨⟩
    obtain ⟨before, pre, n, post, after, w₁, ts, rfl, hpre, heval, hw₁, hw', hlast, hshown⟩ :=
      hstart.fragments_error hrun
    rw [hempty, List.nil_append] at hw₁ hw'
    obtain ⟨hfailures, hjoin⟩ := hshown (hw' ▸ hwritable)
    refine ⟨renderNodes_of_error hbatch, before, pre, n, post, after, rfl, ?_, hfailures, ?_,
      hlast.tree⟩
    · rw [hrendering, run_render_failing hpre heval]
    · have hbefore := hrendering (before.flatten ++ pre)
      rw [hpre] at hbefore
      rw [renderNodes_of_ok hbefore (hw₁ ▸ hw' ▸ hwritable), hw₁, hjoin]
  · refine ⟨fun _ => ?_, fun _ herror => (nomatch herror)⟩
    obtain ⟨hlast, ts, hw', hshown⟩ := hstart.fragments_ok hrun
    rw [hempty, List.nil_append] at hw'
    obtain ⟨hnone, hjoin⟩ := hshown (hw' ▸ hwritable)
    refine ⟨hnone, ?_, hlast.tree⟩
    rw [renderNodes_of_ok hbatch hwritable, hw', hjoin]

set_option maxRecDepth 8000 in
/-- The second of two fragments takes an operand that is not there, behind a text. The session
has shown the first fragment and the text by then, the rendering shows nothing. -/
theorem session_agrees_underflow :
    let options : Options := ⟨[], 10, false, 0⟩
    let fragments : List (List Node) :=
      [[.element "p" [] [.value (some (.text "a"))]],
        [.value (some (.text "b")), .call (some (.text "pop")) [], .value (some (.text "c"))]]
    let session := Session.start [] 10 defaultLevel 0
    options.Writes fragments.flatten ∧
      (options.rendering fragments.flatten).2.1 = .error (.underflow "pop") ∧
      (renderNodes options fragments.flatten).1 = .error (Fault.underflow "pop").toFailure ∧
      (session.evalFragments false fragments).1.map (·.markup) = ["<p>a</p>", "b"] ∧
      ∃ before pre n post after, fragments = before ++ (pre ++ n :: post) :: after ∧
        (renderNodes options (before.flatten ++ pre)).1
          = .ok (String.join ((session.evalFragments false
              (before ++ [pre ++ n :: post])).1.map (·.markup))) := by
  intro options fragments session
  have hwrites : options.Writes fragments.flatten :=
    Option.isNone_iff_eq_none.mp (by decide +kernel)
  have hfault : (options.rendering fragments.flatten).2.1 = .error (.underflow "pop") := rfl
  obtain ⟨herror, before, pre, n, post, after, hsplit, -, -, hmarkup, -⟩ :=
    (session_agrees options defaultLevel fragments hwrites).2 _ hfault
  exact ⟨hwrites, hfault, herror, by decide +kernel, before, pre, n, post, after, hsplit, hmarkup⟩

end TagScript
