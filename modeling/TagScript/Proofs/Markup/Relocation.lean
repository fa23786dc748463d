import TagScript.Proofs.Eval.Observers
import TagScript.Proofs.Markup.Growth

/-!
# `TagScript.Proofs.Markup.Relocation`: markup is the same wherever it is built

The numbers of nodes depend on what else is in the store, the trees below them do not. Take two
stores with a root each. `Forest.Corresponds` pairs the roots, and the nodes that are made from
then on by the order in which they are made. Two stores are built in step if corresponding nodes
are the same nodes and get corresponding children (`Forest.InStep`).

Each request of an evaluation keeps two stores in step, so the markup sink matches itself in
another store (`html_alike`). Two renderings of the same nodes in the same scopes therefore end
alike and add the same trees to their roots, whatever was in the stores before
(`render_relocated`).
-/

set_option autoImplicit false

namespace TagScript

open Markup

namespace Markup.Forest

variable {f₁ f₂ g₁ g₂ : Forest} {p₁ p₂ a b c d : Nat}

/-- From two stores on, the two roots correspond, and new nodes in the order of their making. -/
inductive Corresponds (f₁ f₂ : Forest) (p₁ p₂ : Nat) : Nat → Nat → Prop where
  | root : Corresponds f₁ f₂ p₁ p₂ p₁ p₂
  | made (k : Nat) : Corresponds f₁ f₂ p₁ p₂ (f₁.size + k) (f₂.size + k)

/-- No node corresponds to two others. -/
theorem Corresponds.eq_iff (h₁ : p₁ < f₁.size) (h₂ : p₂ < f₂.size)
    (hab : Corresponds f₁ f₂ p₁ p₂ a b) (hcd : Corresponds f₁ f₂ p₁ p₂ c d) :
    a = c ↔ b = d := by
  cases hab <;> cases hcd <;> omega

/-- Roots have the least numbers of all nodes that correspond to others. -/
theorem Corresponds.root_le (h₁ : p₁ < f₁.size) (h₂ : p₂ < f₂.size)
    (h : Corresponds f₁ f₂ p₁ p₂ a b) : p₁ ≤ a ∧ p₂ ≤ b := by
  cases h <;> omega

/-- Two stores are built in step: corresponding nodes are the same, have parents or not, and
have got corresponding children. -/
structure InStep (f₁ f₂ : Forest) (p₁ p₂ : Nat) (g₁ g₂ : Forest) : Prop where
  size_eq : ∃ m, g₁.size = f₁.size + m ∧ g₂.size = f₂.size + m
  contentOf_eq : ∀ {a b}, Corresponds f₁ f₂ p₁ p₂ a b → g₁.contentOf a = g₂.contentOf b
  parentOf_iff : ∀ {a b}, Corresponds f₁ f₂ p₁ p₂ a b →
    (g₁.parentOf a = none ↔ g₂.parentOf b = none)
  added : ∀ {a b}, Corresponds f₁ f₂ p₁ p₂ a b → ∃ cs₁ cs₂,
    (g₁.childrenOf a).toList = (f₁.childrenOf a).toList ++ cs₁ ∧
    (g₂.childrenOf b).toList = (f₂.childrenOf b).toList ++ cs₂ ∧
    List.Forall₂ (Corresponds f₁ f₂ p₁ p₂) cs₁ cs₂

namespace InStep

/-- Two stores are in step with themselves. -/
theorem refl (h₁ : f₁.Root p₁) (h₂ : f₂.Root p₂) : InStep f₁ f₂ p₁ p₂ f₁ f₂ where
  size_eq := ⟨0, rfl, rfl⟩
  contentOf_eq h := by
    cases h with
    | root => rw [h₁.contentOf_eq, h₂.contentOf_eq]
    | made k =>
        rw [contentOf_of_size_le (Nat.le_add_right _ k), contentOf_of_size_le (Nat.le_add_right _ k)]
  parentOf_iff h := by
    cases h with
    | root => rw [h₁.parentOf_eq, h₂.parentOf_eq]
    | made k =>
        rw [f₁.parentOf_of_size_le _ (Nat.le_add_right _ k),
          f₂.parentOf_of_size_le _ (Nat.le_add_right _ k)]
  added _ := ⟨[], [], (List.append_nil _).symm, (List.append_nil _).symm, .nil⟩

/-- The nodes that are made next correspond. -/
theorem corresponds_size (h : InStep f₁ f₂ p₁ p₂ g₁ g₂) :
    Corresponds f₁ f₂ p₁ p₂ g₁.size g₂.size := by
  obtain ⟨m, hm₁, hm₂⟩ := h.size_eq
  rw [hm₁, hm₂]
  exact .made m

/-- A node is in its store if the corresponding one is in the other. -/
theorem lt_iff (h : InStep f₁ f₂ p₁ p₂ g₁ g₂) (h₁ : p₁ < f₁.size) (h₂ : p₂ < f₂.size)
    (hab : Corresponds f₁ f₂ p₁ p₂ a b) : a < g₁.size ↔ b < g₂.size := by
  obtain ⟨m, hm₁, hm₂⟩ := h.size_eq
  cases hab <;> omega

/-- The same node may be made in both stores. -/
theorem create (h : InStep f₁ f₂ p₁ p₂ g₁ g₂) (h₁ : p₁ < f₁.size) (h₂ : p₂ < f₂.size)
    (content : Content) :
    InStep f₁ f₂ p₁ p₂ (g₁.create content).2 (g₂.create content).2 where
  size_eq := by
    obtain ⟨m, hm₁, hm₂⟩ := h.size_eq
    exact ⟨m + 1, by rw [size_create, hm₁, Nat.add_assoc], by rw [size_create, hm₂, Nat.add_assoc]⟩
  contentOf_eq {a b} hab := by
    by_cases ha : a = g₁.size
    · have hb : b = g₂.size := (hab.eq_iff h₁ h₂ h.corresponds_size).mp ha
      rw [ha, hb, contentOf_create_self, contentOf_create_self]
    · have hb : b ≠ g₂.size := mt (hab.eq_iff h₁ h₂ h.corresponds_size).mpr ha
      rw [contentOf_create_of_ne g₁ content ha, contentOf_create_of_ne g₂ content hb]
      exact h.contentOf_eq hab
  parentOf_iff hab := by
    rw [parentOf_create, parentOf_create]
    exact h.parentOf_iff hab
  added hab := by
    rw [childrenOf_create, childrenOf_create]
    exact h.added hab

/-- Corresponding nodes may be appended in both stores or in neither. -/
theorem appendable_iff (h : InStep f₁ f₂ p₁ p₂ g₁ g₂) (h₁ : p₁ < f₁.size) (h₂ : p₂ < f₂.size)
    (hab : Corresponds f₁ f₂ p₁ p₂ a b) (hcd : Corresponds f₁ f₂ p₁ p₂ c d) :
    g₁.Appendable a c ↔ g₂.Appendable b d :=
  ⟨fun ha => ⟨(h.lt_iff h₁ h₂ hab).mp ha.parent_lt, (h.lt_iff h₁ h₂ hcd).mp ha.child_lt,
      (h.parentOf_iff hcd).mp ha.free⟩,
    fun ha => ⟨(h.lt_iff h₁ h₂ hab).mpr ha.parent_lt, (h.lt_iff h₁ h₂ hcd).mpr ha.child_lt,
      (h.parentOf_iff hcd).mpr ha.free⟩⟩

/-- Corresponding nodes may be appended to corresponding parents. -/
theorem append (h : InStep f₁ f₂ p₁ p₂ g₁ g₂) (h₁ : p₁ < f₁.size) (h₂ : p₂ < f₂.size)
    (hab : Corresponds f₁ f₂ p₁ p₂ a b) (hcd : Corresponds f₁ f₂ p₁ p₂ c d) :
    InStep f₁ f₂ p₁ p₂ (g₁.append a c) (g₂.append b d) := by
  by_cases happ₁ : g₁.Appendable a c
  · have happ₂ : g₂.Appendable b d := (h.appendable_iff h₁ h₂ hab hcd).mp happ₁
    refine ⟨?_, ?_, ?_, ?_⟩
    · rw [size_append, size_append]
      exact h.size_eq
    · intro i j hij
      rw [contentOf_append, contentOf_append]
      exact h.contentOf_eq hij
    · intro i j hij
      -- The two children get a parent, and all other nodes keep theirs.
      by_cases hi : i = c
      · have hj : j = d := (hij.eq_iff h₁ h₂ hcd).mp hi
        rw [hi, hj, parentOf_append_self happ₁, parentOf_append_self happ₂]
        exact iff_of_false (Option.some_ne_none a) (Option.some_ne_none b)
      · have hj : j ≠ d := mt (hij.eq_iff h₁ h₂ hcd).mpr hi
        rw [g₁.parentOf_append a c i (Ne.symm hi), g₂.parentOf_append b d j hj.symm]
        exact h.parentOf_iff hij
    · intro i j hij
      obtain ⟨cs₁, cs₂, hcs₁, hcs₂, hcs⟩ := h.added hij
      -- The two parents get one more child each, and these correspond.
      by_cases hi : i = a
      · have hj : j = b := (hij.eq_iff h₁ h₂ hab).mp hi
        subst hi hj
        refine ⟨cs₁ ++ [c], cs₂ ++ [d], ?_, ?_, List.rel_append hcs (.cons hcd .nil)⟩
        · rw [childrenOf_append_self happ₁, Array.toList_push, hcs₁, List.append_assoc]
        · rw [childrenOf_append_self happ₂, Array.toList_push, hcs₂, List.append_assoc]
      · have hj : j ≠ b := mt (hij.eq_iff h₁ h₂ hab).mpr hi
        rw [childrenOf_append_of_ne g₁ c hi, childrenOf_append_of_ne g₂ d hj]
        exact ⟨cs₁, cs₂, hcs₁, hcs₂, hcs⟩
  · have happ₂ : ¬ g₂.Appendable b d := mt (h.appendable_iff h₁ h₂ hab hcd).mpr happ₁
    rw [append_of_not_appendable happ₁, append_of_not_appendable happ₂]
    exact h

/-- The roots of two stores that were built in step have got the same trees. -/
theorem trees (h : InStep f₁ f₂ p₁ p₂ g₁ g₂) (h₁ : f₁.Root p₁) (h₂ : f₂.Root p₂)
    (hg₁ : Fills f₁.size p₁ f₁ g₁) (hg₂ : Fills f₂.size p₂ f₂ g₂) :
    ∃ ts, g₁.trees p₁ = f₁.trees p₁ ++ ts ∧ g₂.trees p₂ = f₂.trees p₂ ++ ts := by
  obtain ⟨cs₁, cs₂, hcs₁, hcs₂, hcs⟩ := h.added .root
  obtain ⟨ds₁, hds₁, htrees₁⟩ := hg₁.trees h₁.lt h₁.ordered
  obtain ⟨ds₂, hds₂, htrees₂⟩ := hg₂.trees h₂.lt h₂.ordered
  rw [hcs₁] at hds₁
  rw [hcs₂] at hds₂
  obtain rfl := List.append_cancel_left hds₁
  obtain rfl := List.append_cancel_left hds₂
  have hlook : LooksLike (Corresponds f₁ f₂ p₁ p₂) g₁ g₂ := by
    intro a b hab
    refine ⟨h.contentOf_eq hab, ?_⟩
    cases hab with
    | root => exact Or.inl (hg₁.root h₁).contentOf_eq
    | made k =>
        -- The nodes are new, so all of their children are.
        obtain ⟨es₁, es₂, hes₁, hes₂, hes⟩ := h.added (.made k)
        rw [childrenOf_of_size_le (Nat.le_add_right _ k)] at hes₁ hes₂
        rw [hes₁, hes₂]
        exact Or.inr hes
  have heq := map_tree_congr (hg₁.root h₁).ordered (hg₂.root h₂).ordered hlook
    (fun _ _ hab => hab.root_le h₁.lt h₂.lt) hcs
  exact ⟨cs₁.map g₁.tree, htrees₁, by rw [htrees₂, heq]⟩

end InStep

/-- Output nodes that correspond. -/
def NodesCorrespond (f₁ f₂ : Forest) (p₁ p₂ : Nat) (n₁ n₂ : NodeRef) : Prop :=
  ∃ a b, n₁ = some a ∧ n₂ = some b ∧ Corresponds f₁ f₂ p₁ p₂ a b

/-- The markup sink answers alike in two stores that are built in step. -/
theorem html_alike (h₁ : p₁ < f₁.size) (h₂ : p₂ < f₂.size) :
    Sink.html.Alike Sink.html (InStep f₁ f₂ p₁ p₂) (NodesCorrespond f₁ f₂ p₁ p₂) where
  none_iff := by
    rintro _ _ ⟨a, b, rfl, rfl, -⟩
    exact iff_of_false (Option.some_ne_none a) (Option.some_ne_none b)
  text t h := ⟨⟨_, _, rfl, rfl, h.corresponds_size⟩, h.create h₁ h₂ (.text t)⟩
  element tag attributes h := by
    rw [dress_element_html, dress_element_html]
    exact ⟨⟨_, _, rfl, rfl, h.corresponds_size⟩, h.create h₁ h₂ _⟩
  append := by
    rintro g₁ g₂ _ _ _ _ h ⟨a, b, rfl, rfl, hab⟩ ⟨c, d, rfl, rfl, hcd⟩
    exact h.append h₁ h₂ hab hcd

end Markup.Forest

open Markup.Forest

/-- Two renderings have added the same trees to their roots, and their scopes are the same. -/
structure World.SameRendering (w₁ w₂ : World Forest) (p₁ p₂ : Nat) (w₁' w₂' : World Forest) :
    Prop where
  tree : w₁'.tree = w₂'.tree
  polls : w₁'.polls = w₂'.polls
  trees : ∃ ts, w₁'.sink.trees p₁ = w₁.sink.trees p₁ ++ ts ∧
    w₂'.sink.trees p₂ = w₂.sink.trees p₂ ++ ts

/-- Two renderings of the same nodes in the same scopes have the same outcome. Each adds the same
trees to its root, whatever is in the two stores. -/
theorem render_relocated (limit : Int) (canceled : Cancellation) (scope : Nat)
    (nodes : List Node) {w₁ w₂ : World Forest} {p₁ p₂ : Nat} (htree : w₁.tree = w₂.tree)
    (hpolls : w₁.polls = w₂.polls) (h₁ : w₁.sink.Root p₁) (h₂ : w₂.sink.Root p₂) :
    ∃ outcome w₁' w₂',
      (render ⟨.html, limit, canceled⟩ scope (some p₁) nodes).run.run w₁ = (outcome, w₁') ∧
      (render ⟨.html, limit, canceled⟩ scope (some p₂) nodes).run.run w₂ = (outcome, w₂') ∧
      w₁.SameRendering w₂ p₁ p₂ w₁' w₂' := by
  let C := watching (InStep w₁.sink w₂.sink p₁ p₂) (NodesCorrespond w₁.sink w₂.sink p₁ p₂) w₁.log
    w₂.log
  have L : C.Lawful ⟨.html, limit, canceled⟩ ⟨.html, limit, canceled⟩ :=
    watching_lawful (html_alike h₁.lt h₂.lt).matches_of_alike rfl rfl w₁.log w₂.log
  have hagree : C.agree w₁ w₂ scope scope :=
    ⟨rfl, htree, hpolls, .refl h₁ h₂, #[], Array.append_empty.symm, Array.append_empty.symm⟩
  have hroot : C.results (.output (some p₁)) (.output (some p₂)) :=
    .output ⟨p₁, p₂, rfl, rfl, .root⟩
  have hfills₁ := (render_fills limit canceled scope nodes w₁ h₁.lt).state
  have hfills₂ := (render_fills limit canceled scope nodes w₂ h₂.lt).state
  -- What the coupling says of the two ends, together with how each store has grown.
  have hends : ∀ {w₁' w₂'}, C.Moves w₁ w₂ w₁' w₂' → Fills w₁.sink.size p₁ w₁.sink w₁'.sink →
      Fills w₂.sink.size p₂ w₂.sink w₂'.sink → w₁.SameRendering w₂ p₁ p₂ w₁' w₂' := by
    intro w₁' w₂' hmoves hg₁ hg₂
    obtain ⟨-, htree', hpolls', hstep, -⟩ := hmoves scope scope hagree
    exact ⟨htree', hpolls', hstep.trees h₁ h₂ hg₁ hg₂⟩
  rcases (L.render hroot scope scope nodes w₁ w₂ hagree).cases with
    ⟨_, _, w₁', w₂', hrun₁, hrun₂, -, hmoves⟩ | ⟨fault, w₁', w₂', hrun₁, hrun₂, hmoves⟩
  all_goals
    rw [hrun₁] at hfills₁
    rw [hrun₂] at hfills₂
    exact ⟨_, w₁', w₂', hrun₁, hrun₂, hends hmoves hfills₁ hfills₂⟩

end TagScript
