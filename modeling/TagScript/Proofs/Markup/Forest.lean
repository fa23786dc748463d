import Mathlib.Data.List.Forall2
import TagScript.Proofs.Eval.Outcome
import TagScript.Proofs.Sink.Html

/-!
# `TagScript.Proofs.Markup.Forest`: what can be seen of a store of nodes

A store is seen through four functions: its size, and of each number in it what the node is,
its children and its parent. The first part says what creating, dressing and appending do to
these.

The finished tree below a node is read with a bound on its height. In a store where children
have greater numbers than their parents (`Forest.OrderedFrom`), the bound is high enough, and
any other that is high enough gives the same tree (`treeWithin_eq`). So two stores that look
alike from two nodes hold the same tree below them (`Forest.LooksLike`, `tree_congr`).
-/

set_option autoImplicit false

namespace TagScript

open Markup

namespace Markup.Forest

variable {f g : Forest} {i p c : Nat}

/-- What a node is, is in its slot. -/
private theorem contentOf_eq (f : Forest) (i : Nat) :
    f.contentOf i = (f.slots[i]?.map (·.content)).getD .fragment := by
  unfold contentOf
  cases f.slots[i]? <;> rfl

/-- So are its children. -/
private theorem childrenOf_eq (f : Forest) (i : Nat) :
    f.childrenOf i = (f.slots[i]?.map (·.children)).getD #[] := by
  unfold childrenOf
  cases f.slots[i]? <;> rfl

/-- A number behind the last is taken for a fragment. -/
theorem contentOf_of_size_le (h : f.size ≤ i) : f.contentOf i = .fragment := by
  rw [contentOf, Array.getElem?_eq_none h]

/-- It has no children. -/
theorem childrenOf_of_size_le (h : f.size ≤ i) : f.childrenOf i = #[] := by
  rw [childrenOf, Array.getElem?_eq_none h]

/-! ### Creating, dressing and appending -/

/-- Creating a node adds one. -/
@[simp]
theorem size_create (f : Forest) (content : Content) :
    (f.create content).2.size = f.size + 1 :=
  Array.size_push _

/-- The new node is what it was created as. -/
theorem contentOf_create_self (f : Forest) (content : Content) :
    (f.create content).2.contentOf f.size = content := by
  simp only [contentOf, create, size, Array.getElem?_push_size]

/-- Creating a node leaves the slots before it as they are. -/
theorem getElem?_create (f : Forest) (content : Content) (h : i < f.size) :
    (f.create content).2.slots[i]? = f.slots[i]? := by
  have hne : i ≠ f.slots.size := Nat.ne_of_lt h
  simp only [create, Array.getElem?_push, if_neg hne]

/-- Creating a node does not change what the others are. -/
theorem contentOf_create_of_ne (f : Forest) (content : Content) (h : i ≠ f.size) :
    (f.create content).2.contentOf i = f.contentOf i := by
  have hne : i ≠ f.slots.size := h
  simp only [contentOf, create, Array.getElem?_push, if_neg hne]

/-- The new node has no children, and its number had none before. -/
@[simp]
theorem childrenOf_create (f : Forest) (content : Content) (i : Nat) :
    (f.create content).2.childrenOf i = f.childrenOf i := by
  simp only [childrenOf_eq, create, Array.getElem?_push]
  by_cases h : i = f.slots.size
  · rw [if_pos h, h, Array.getElem?_eq_none (Nat.le_refl _)]
    rfl
  · rw [if_neg h]

/-- Setting an attribute leaves all children as they are. -/
theorem childrenOf_setAttribute (f : Forest) (i j : Nat) (name value : String) :
    (f.setAttribute i name value).childrenOf j = f.childrenOf j := by
  simp only [childrenOf_eq, setAttribute, Array.getElem?_modify]
  split
  · rcases f.slots[j]? with _ | s
    · rfl
    · dsimp only [Option.map_some, Option.getD_some]
      split <;> rfl
  · rfl

/-- A node may be appended to another: both are in the store, and the child has no parent. -/
structure Appendable (f : Forest) (p c : Nat) : Prop where
  parent_lt : p < f.size
  child_lt : c < f.size
  free : f.parentOf c = none

/-- A node that may be appended is linked. -/
theorem append_of_appendable (h : f.Appendable p c) : f.append p c = f.link p c :=
  if_pos ⟨h.parent_lt, h.child_lt, Option.isNone_iff_eq_none.mpr h.free⟩

/-- Otherwise appending does nothing. -/
theorem append_of_not_appendable (h : ¬ f.Appendable p c) : f.append p c = f :=
  if_neg fun hp => h ⟨hp.1, hp.2.1, Option.isNone_iff_eq_none.mp hp.2.2⟩

/-- Appending does not change what the nodes are. -/
@[simp]
theorem contentOf_append (f : Forest) (p c i : Nat) :
    (f.append p c).contentOf i = f.contentOf i := by
  unfold append
  split
  · simp only [contentOf_eq, link, Array.getElem?_modify]
    split <;> split <;> cases f.slots[i]? <;> rfl
  · rfl

/-- Only the parent gets another child. -/
theorem childrenOf_append_of_ne (f : Forest) (c : Nat) (h : i ≠ p) :
    (f.append p c).childrenOf i = f.childrenOf i := by
  unfold append
  split
  · simp only [childrenOf_eq, link, Array.getElem?_modify, if_neg h.symm]
    split <;> cases f.slots[i]? <;> rfl
  · rfl

/-- The child that is appended is the last one. -/
theorem childrenOf_append_self (h : f.Appendable p c) :
    (f.append p c).childrenOf p = (f.childrenOf p).push c := by
  rw [append_of_appendable h]
  obtain ⟨slot, hslot⟩ : ∃ slot, f.slots[p]? = some slot := ⟨_, Array.getElem?_eq_getElem h.1⟩
  simp only [childrenOf_eq, link, Array.getElem?_modify, hslot]
  split <;> rfl

/-- It has the parent that it was appended to. -/
theorem parentOf_append_self (h : f.Appendable p c) : (f.append p c).parentOf c = some p := by
  rw [append_of_appendable h]
  obtain ⟨slot, hslot⟩ : ∃ slot, f.slots[c]? = some slot := ⟨_, Array.getElem?_eq_getElem h.2⟩
  simp only [parentOf, link, Array.getElem?_modify, hslot, if_true]
  split <;> rfl

/-- Appending changes only the slots of the two nodes. -/
theorem getElem?_append (f : Forest) (hp : i ≠ p) (hc : i ≠ c) :
    (f.append p c).slots[i]? = f.slots[i]? := by
  unfold append
  split
  · simp only [link, Array.getElem?_modify, if_neg hp.symm, if_neg hc.symm]
  · rfl

/-- The attributes of an element after values were given in order. -/
def assignAll (attributes : List Attribute) : List HtmlAttribute :=
  attributes.foldl (fun assigned a => assign assigned a.name a.value) []

/-- To give a new element an attribute is to create it with the attribute. -/
private theorem setAttribute_create (f : Forest) (tag space : String)
    (attributes : List HtmlAttribute) (name value : String) :
    (f.create (.element tag space attributes)).2.setAttribute f.size name value
      = (f.create (.element tag space (assign attributes name value))).2 := by
  unfold setAttribute create size
  congr 1
  refine Array.ext_getElem? fun i => ?_
  rw [Array.getElem?_modify, Array.getElem?_push, Array.getElem?_push]
  by_cases h : f.slots.size = i
  · simp only [h, if_true, Option.map_some]
  · simp only [h, Ne.symm h, if_false]

/-- An element that is created and then dressed is created with its attributes. -/
theorem dress_element_html (f : Forest) (tag : String) (attributes : List Attribute) :
    Sink.html.dress (Sink.html.element tag f).1 attributes (Sink.html.element tag f).2
      = (f.create (.element tag "" (assignAll attributes))).2 := by
  show Sink.html.dress (some f.size) attributes (f.create (.element tag "" [])).2 = _
  unfold Sink.dress assignAll
  generalize ([] : List HtmlAttribute) = assigned
  induction attributes generalizing assigned with
  | nil => rfl
  | cons a attributes ih =>
      rw [List.foldl_cons, List.foldl_cons, ← ih, ← setAttribute_create]
      rfl

/-! ### Trees -/

/-- From the number `base` on, children have greater numbers than their parents. -/
def OrderedFrom (f : Forest) (base : Nat) : Prop :=
  ∀ i, base ≤ i → ∀ c ∈ f.childrenOf i, i < c ∧ c < f.size

/-- What is in order from a number on is so from every later one. -/
theorem OrderedFrom.mono {base base' : Nat} (h : f.OrderedFrom base) (hle : base ≤ base') :
    f.OrderedFrom base' :=
  fun i hi => h i (Nat.le_trans hle hi)

/-- An unused number has no tree, however high it may be. -/
private theorem treeWithin_of_size_le (h : f.size ≤ i) (fuel : Nat) :
    f.treeWithin fuel i = .comment := by
  cases fuel with
  | zero => rfl
  | succ fuel => rw [treeWithin, contentOf_of_size_le h]

/-- No path in an ordered store is longer than the rest of the store, so all bounds that are
greater give the same tree. -/
theorem treeWithin_eq {base : Nat} (h : f.OrderedFrom base) {m n : Nat} (hi : base ≤ i)
    (hm : f.size < m + i) (hn : f.size < n + i) : f.treeWithin m i = f.treeWithin n i := by
  induction m generalizing i n with
  | zero =>
      have hout : f.size ≤ i := by omega
      rw [treeWithin_of_size_le hout, treeWithin_of_size_le hout]
  | succ m ih =>
      cases n with
      | zero =>
          have hout : f.size ≤ i := by omega
          rw [treeWithin_of_size_le hout, treeWithin_of_size_le hout]
      | succ n =>
          have hchildren : (f.childrenOf i).toList.map (f.treeWithin m)
              = (f.childrenOf i).toList.map (f.treeWithin n) := by
            refine List.map_congr_left fun c hc => ?_
            -- A child is nearer to the end of the store, so one level less is enough for it.
            obtain ⟨hlt, -⟩ := h i hi c (Array.mem_toList_iff.mp hc)
            exact ih (by omega) (by omega) (by omega)
          rw [treeWithin, treeWithin, hchildren]

/-- The nodes that are related look alike in the two stores: they are the same, and their
children are related in order. The children of a fragment do not matter. -/
def LooksLike (related : Nat → Nat → Prop) (f g : Forest) : Prop :=
  ∀ a b, related a b → f.contentOf a = g.contentOf b ∧
    (f.contentOf a = .fragment ∨
      List.Forall₂ related (f.childrenOf a).toList (g.childrenOf b).toList)

section

variable {related : Nat → Nat → Prop} {a b : Nat}

/-- Functions that agree on what is related give the same list. -/
private theorem map_eq_map_of_forall₂ {α β γ : Type} {rel : α → β → Prop} {u : α → γ} {v : β → γ}
    (huv : ∀ a b, rel a b → u a = v b) {as : List α} {bs : List β}
    (h : List.Forall₂ rel as bs) : as.map u = bs.map v := by
  induction h with
  | nil => rfl
  | cons hab _ ih => rw [List.map_cons, List.map_cons, huv _ _ hab, ih]

/-- Up to any height, nodes that are related hold the same tree. -/
theorem treeWithin_congr (h : LooksLike related f g) (fuel : Nat) (hab : related a b) :
    f.treeWithin fuel a = g.treeWithin fuel b := by
  induction fuel generalizing a b with
  | zero => rfl
  | succ fuel ih =>
      obtain ⟨hcontent, hchildren⟩ := h a b hab
      rw [treeWithin, treeWithin, ← hcontent]
      rcases hchildren with hfragment | hchildren
      · rw [hfragment]
      · rw [map_eq_map_of_forall₂ (fun _ _ hcd => ih hcd) hchildren]

variable {base base' : Nat}

/-- Stores that look alike from two nodes hold the same tree below them. -/
theorem tree_congr (hf : f.OrderedFrom base) (hg : g.OrderedFrom base')
    (h : LooksLike related f g) (ha : base ≤ a) (hb : base' ≤ b) (hab : related a b) :
    f.tree a = g.tree b := by
  -- A bound that is high enough in both stores.
  let high := f.size + g.size + 1
  calc f.tree a = f.treeWithin high a :=
        treeWithin_eq hf ha (Nat.lt_add_right a (Nat.lt_succ_self _)) (by omega)
    _ = g.treeWithin high b := treeWithin_congr h high hab
    _ = g.tree b := treeWithin_eq hg hb (by omega) (Nat.lt_add_right b (Nat.lt_succ_self _))

/-- The same for nodes in order. -/
theorem map_tree_congr (hf : f.OrderedFrom base) (hg : g.OrderedFrom base')
    (h : LooksLike related f g) (hbase : ∀ a b, related a b → base ≤ a ∧ base' ≤ b)
    {as bs : List Nat} (habs : List.Forall₂ related as bs) : as.map f.tree = bs.map g.tree :=
  map_eq_map_of_forall₂
    (fun a b hab => tree_congr hf hg h (hbase a b hab).1 (hbase a b hab).2 hab) habs

/-- A store that agrees with another on the nodes from a number on holds the same trees below
them. -/
theorem tree_eq_of_agree (hf : f.OrderedFrom base) (hg : g.OrderedFrom base)
    (hcontent : ∀ i, base ≤ i → i < f.size → g.contentOf i = f.contentOf i)
    (hchildren : ∀ i, base ≤ i → i < f.size → g.childrenOf i = f.childrenOf i)
    (hi : base ≤ i) (hlt : i < f.size) : g.tree i = f.tree i := by
  -- Children of a node on which they agree are such nodes too.
  let same : Nat → Nat → Prop := fun a b => a = b ∧ base ≤ a ∧ a < f.size
  have hlook : LooksLike same g f := by
    rintro a _ ⟨rfl, ha, haf⟩
    refine ⟨hcontent a ha haf, Or.inr ?_⟩
    rw [hchildren a ha haf]
    refine List.forall₂_same.mpr fun c hc => ⟨rfl, ?_⟩
    obtain ⟨hac, hcf⟩ := hf a ha c (Array.mem_toList_iff.mp hc)
    exact ⟨Nat.le_trans ha (Nat.le_of_lt hac), hcf⟩
  exact tree_congr hg hf hlook hi hi ⟨rfl, hi, hlt⟩

/-- The tree of an element has the trees of its children in it. -/
theorem tree_element {tag space : String} {attributes : List HtmlAttribute}
    (hf : f.OrderedFrom i) (h : f.contentOf i = .element tag space attributes) :
    f.tree i = .element tag space attributes (f.trees i) := by
  have hchildren : (f.childrenOf i).toList.map (f.treeWithin f.slots.size) = f.trees i := by
    refine List.map_congr_left fun c hc => ?_
    obtain ⟨hic, -⟩ := hf i (Nat.le_refl i) c (Array.mem_toList_iff.mp hc)
    refine treeWithin_eq hf (Nat.le_of_lt hic) ?_ ?_
    · exact Nat.lt_add_of_pos_right (Nat.zero_lt_of_lt hic)
    · exact Nat.lt_add_right c (Nat.lt_succ_self _)
  rw [tree, treeWithin, h, hchildren]

end

end Markup.Forest

end TagScript
