import Mathlib.Data.Fintype.Card
import Mathlib.Data.List.Forall2
import Mathlib.Logic.Relation
import TagScript.Proofs.Markup.PassThrough

/-!
# `TagScript.Proofs.Markup.Rooted`: below the root is a tree, whatever is asked for

Anyone may use the markup sink, not only the evaluator, and may append any node to any other. Nodes
that are not part of the output yet can then come to be below themselves: an element that is
appended to itself, or two elements each of which is appended to the other.

None of this is ever below a root that is not appended itself. A node takes only one parent, so that
links and parents agree (`Forest.Linked`). A node below the root gets there on one way only, of one
length (`Forest.Level`), and this length is less than the number of nodes. From this it follows that
the root has a tree below it (`Forest.Linked.rooted`).

What is in the tree is told without a store by a ledger of the requests (`Ledger`): a link is
accepted the first time that a node is appended, and an attribute keeps the place that it was given
first. The store agrees with the ledger after any requests (`Forest.Agrees`).
-/

set_option autoImplicit false

namespace TagScript

open Markup Relation

namespace Markup.Forest

variable {f : Forest} {root d e i j p c : Nat}

/-! ### Nodes below a node -/

/-- A node has a child. -/
def HasChild (f : Forest) (p c : Nat) : Prop := c ∈ f.childrenOf p

/-- A node is another one, or below it. -/
def Below (f : Forest) : Nat → Nat → Prop := ReflTransGen f.HasChild

/-- A node is some number of links below the root. -/
inductive Level (f : Forest) (root : Nat) : Nat → Nat → Prop
  | root : Level f root 0 root
  | child {d p c : Nat} : Level f root d p → f.HasChild p c → Level f root (d + 1) c

/-- Children and parents agree, and the root has no parent. -/
structure Linked (f : Forest) (root : Nat) : Prop where
  lt : root < f.size
  free : f.parentOf root = none
  parent : ∀ p c, f.HasChild p c ↔ f.parentOf c = some p
  nodup : ∀ p, (f.childrenOf p).toList.Nodup

/-- The nodes below a node: itself, then those below each of its children. -/
inductive Walk (f : Forest) : Nat → List Nat → Prop
  | node {i : Nat} {parts : List (List Nat)}
      (h : List.Forall₂ (Walk f) (f.childrenOf i).toList parts) : Walk f i (i :: parts.flatten)

/-- The root has a finite tree below it. -/
structure Rooted (f : Forest) (root : Nat) : Prop where
  /-- A walk from the root comes to an end. It comes to every node below it, and to none twice. -/
  walk : ∃ visited, f.Walk root visited ∧ visited.Nodup ∧ ∀ i, i ∈ visited ↔ f.Below root i
  /-- No node in the tree is below itself. -/
  acyclic : ∀ i, f.Below root i → ¬ TransGen f.HasChild i i
  /-- The root is no child. -/
  top : ∀ p, ¬ f.HasChild p root
  /-- Every other node of the tree has one parent, which is in the tree too, and is there once. -/
  parent : ∀ i, f.Below root i → i ≠ root →
    ∃ p, f.Below root p ∧ (f.childrenOf p).toList.count i = 1 ∧ ∀ q, f.HasChild q i → q = p
  /-- The finished tree of an element has the finished trees of its children in it. -/
  tree : ∀ i, f.Below root i → ∀ tag space attributes,
    f.contentOf i = .element tag space attributes →
      f.tree i = .element tag space attributes (f.trees i)

namespace Linked

variable (h : f.Linked root)

include h

/-- A child has one parent only. -/
theorem eq_of_hasChild {q : Nat} (hp : f.HasChild p c) (hq : f.HasChild q c) : p = q :=
  Option.some.inj (((h.parent p c).mp hp).symm.trans ((h.parent q c).mp hq))

/-- The root is no child. -/
theorem not_hasChild_root (p : Nat) : ¬ f.HasChild p root := fun hp =>
  nomatch h.free.symm.trans ((h.parent p root).mp hp)

/-- A child is in the store. -/
theorem child_lt (hc : f.HasChild p c) : c < f.size := by
  by_contra hge
  have hparent := (h.parent p c).mp hc
  rw [f.parentOf_of_size_le c (Nat.le_of_not_lt hge)] at hparent
  cases hparent

/-! #### Levels -/

/-- A node on a level is in the store. -/
theorem level_lt_size (hi : f.Level root d i) : i < f.size := by
  cases hi with
  | root => exact h.lt
  | child _ hc => exact h.child_lt hc

/-- There is only one way from the root to a node. -/
theorem level_unique (hd : f.Level root d i) (he : f.Level root e i) : d = e := by
  induction hd generalizing e with
  | root =>
      cases he with
      | root => rfl
      | child _ hc => exact absurd hc (h.not_hasChild_root _)
  | child _ hc ih =>
      cases he with
      | root => exact absurd hc (h.not_hasChild_root _)
      | child hq hc' =>
          cases h.eq_of_hasChild hc hc'
          exact congrArg (· + 1) (ih hq)

omit h in
/-- A node below the root is on some level. -/
theorem exists_level (hi : f.Below root i) : ∃ d, f.Level root d i := by
  induction hi with
  | refl => exact ⟨0, .root⟩
  | tail _ hc ih =>
      obtain ⟨d, hd⟩ := ih
      exact ⟨d + 1, .child hd hc⟩

omit h in
/-- A node on a level is below the root. -/
theorem below_of_level (hi : f.Level root d i) : f.Below root i := by
  induction hi with
  | root => exact .refl
  | child _ hc ih => exact ih.tail hc

omit h in
/-- What is below a node is on a greater level. -/
theorem level_of_transGen (hi : f.Level root d i) (hij : TransGen f.HasChild i j) :
    ∃ e, d < e ∧ f.Level root e j := by
  induction hij with
  | single hc => exact ⟨d + 1, Nat.lt_succ_self d, .child hi hc⟩
  | tail _ hc ih =>
      obtain ⟨e, hde, he⟩ := ih
      exact ⟨e + 1, Nat.lt_succ_of_lt hde, .child he hc⟩

omit h in
/-- On the way to a node there is one on every level above it. -/
theorem exists_of_level_le (hi : f.Level root d i) (hed : e ≤ d) : ∃ j, f.Level root e j := by
  induction hi with
  | root => exact ⟨root, Nat.le_zero.mp hed ▸ .root⟩
  | @child d p c hp hc ih =>
      rcases Nat.lt_or_ge d e with hlt | hge
      · exact ⟨c, Nat.le_antisymm hed hlt ▸ .child hp hc⟩
      · exact ih hge

/-- There are fewer levels than nodes. -/
theorem level_lt (hi : f.Level root d i) : d < f.size := by
  have hall : ∀ e : Fin (d + 1), ∃ j : Fin f.size, f.Level root e j := fun e => by
    obtain ⟨j, hj⟩ := exists_of_level_le hi (Nat.le_of_lt_succ e.isLt)
    exact ⟨⟨j, h.level_lt_size hj⟩, hj⟩
  choose node hnode using hall
  have hinj : Function.Injective node := fun e e' heq =>
    Fin.ext (h.level_unique (hnode e) (heq ▸ hnode e'))
  have hcard := Fintype.card_le_of_injective node hinj
  rwa [Fintype.card_fin, Fintype.card_fin] at hcard

/-- A node below the root is not below itself. -/
theorem acyclic (hi : f.Below root i) : ¬ TransGen f.HasChild i i := by
  intro hcycle
  obtain ⟨d, hd⟩ := exists_level hi
  obtain ⟨e, hde, he⟩ := level_of_transGen hd hcycle
  exact Nat.ne_of_lt hde (h.level_unique hd he)

/-- What two nodes of one level have below them is apart. -/
theorem eq_of_below {a b : Nat} (ha : f.Level root d a) (hb : f.Level root d b)
    (haj : f.Below a j) (hbj : f.Below b j) : a = b := by
  -- A node of a level is not below another one of it.
  have hapart : ∀ {a b : Nat}, f.Level root d a → f.Level root d b → ¬ TransGen f.HasChild a b := by
    intro a b ha hb hab
    obtain ⟨e, hde, he⟩ := level_of_transGen ha hab
    exact Nat.ne_of_lt hde (h.level_unique hb he)
  induction haj with
  | refl =>
      rcases reflTransGen_iff_eq_or_transGen.mp hbj with heq | hba
      · exact heq
      · exact absurd hba (hapart hb ha)
  | tail hap hpj ih =>
      rcases ReflTransGen.cases_tail hbj with heq | ⟨q, hbq, hqj⟩
      · subst heq
        exact absurd (TransGen.tail' hap hpj) (hapart ha hb)
      · cases h.eq_of_hasChild hpj hqj
        exact ih hbq

/-! #### The walk -/

section

variable {part : Nat → List Nat}

omit h in
/-- The walks from the children of a node come to what is below it. -/
theorem mem_parts (hpart : ∀ c, f.HasChild i c → ∀ j, j ∈ part c ↔ f.Below c j) (j : Nat) :
    j ∈ ((f.childrenOf i).toList.map part).flatten ↔ ∃ c, f.HasChild i c ∧ f.Below c j := by
  rw [← List.flatMap_def, List.mem_flatMap]
  constructor
  · rintro ⟨c, hc, hj⟩
    have hchild : f.HasChild i c := Array.mem_toList_iff.mp hc
    exact ⟨c, hchild, (hpart c hchild j).mp hj⟩
  · rintro ⟨c, hc, hj⟩
    exact ⟨c, Array.mem_toList_iff.mpr hc, (hpart c hc j).mpr hj⟩

/-- They do not come to the node itself, and no two of them to the same node. -/
theorem nodup_parts (hi : f.Level root d i)
    (hpart : ∀ c, f.HasChild i c → ∀ j, j ∈ part c ↔ f.Below c j)
    (hnodup : ∀ c, f.HasChild i c → (part c).Nodup) :
    (i :: ((f.childrenOf i).toList.map part).flatten).Nodup := by
  refine List.nodup_cons.mpr ⟨fun hself => ?_,
    List.nodup_flatten.mpr ⟨fun visited hvisited => ?_, ?_⟩⟩
  · obtain ⟨c, hc, hci⟩ := (mem_parts hpart i).mp hself
    exact h.acyclic (below_of_level hi) (TransGen.head' hc hci)
  · obtain ⟨c, hc, rfl⟩ := List.mem_map.mp hvisited
    exact hnodup c (Array.mem_toList_iff.mp hc)
  · refine List.pairwise_map.mpr ((h.nodup i).imp_of_mem fun {a b} ha hb hne => ?_)
    have ha : f.HasChild i a := Array.mem_toList_iff.mp ha
    have hb : f.HasChild i b := Array.mem_toList_iff.mp hb
    -- A node below both children is below the same child.
    intro j hja hjb
    exact hne (h.eq_of_below (.child hi ha) (.child hi hb) ((hpart a ha j).mp hja)
      ((hpart b hb j).mp hjb))

end

/-- A walk from a node: the fewer levels there can be below it, the sooner it ends. -/
theorem exists_walk {n : Nat} (hn : f.size ≤ n + d) (hi : f.Level root d i) :
    ∃ visited, f.Walk i visited ∧ visited.Nodup ∧ ∀ j, j ∈ visited ↔ f.Below i j := by
  induction n generalizing d i with
  | zero =>
      have hd := h.level_lt hi
      omega
  | succ n ih =>
      have hwalks : ∀ c, ∃ visited, f.HasChild i c →
          f.Walk c visited ∧ visited.Nodup ∧ ∀ j, j ∈ visited ↔ f.Below c j := by
        intro c
        by_cases hc : f.HasChild i c
        · obtain ⟨visited, hvisited⟩ := ih (by omega) (.child hi hc)
          exact ⟨visited, fun _ => hvisited⟩
        · exact ⟨[], fun hc' => absurd hc' hc⟩
      choose part hwalk using hwalks
      have hpart := fun c hc => (hwalk c hc).2.2
      refine ⟨i :: ((f.childrenOf i).toList.map part).flatten, .node ?_,
        h.nodup_parts hi hpart fun c hc => (hwalk c hc).2.1, fun j => ?_⟩
      · rw [List.forall₂_map_right_iff]
        exact List.forall₂_same.mpr fun c hc => (hwalk c (Array.mem_toList_iff.mp hc)).1
      · rw [List.mem_cons, mem_parts hpart, Below, ReflTransGen.cases_head_iff, eq_comm]

/-! #### The tree -/

/-- Bounds that are greater than the number of levels give the same tree. -/
theorem treeWithin_eq {m n : Nat} (hi : f.Level root d i) (hm : f.size ≤ m + d)
    (hn : f.size ≤ n + d) : f.treeWithin m i = f.treeWithin n i := by
  have hd := h.level_lt hi
  induction m generalizing d i n with
  | zero => omega
  | succ m ih =>
      obtain ⟨n, rfl⟩ : ∃ k, n = k + 1 := ⟨n - 1, by omega⟩
      have hchildren : (f.childrenOf i).toList.map (f.treeWithin m)
          = (f.childrenOf i).toList.map (f.treeWithin n) := by
        refine List.map_congr_left fun c hc => ?_
        have hlevel := Level.child hi (Array.mem_toList_iff.mp hc)
        exact ih hlevel (by omega) (by omega) (h.level_lt hlevel)
      rw [treeWithin, treeWithin, hchildren]

/-- **A tree below the root.** -/
theorem rooted : f.Rooted root where
  walk := h.exists_walk (Nat.le_add_right f.size 0) .root
  acyclic := fun i hi => h.acyclic hi
  top := h.not_hasChild_root
  parent := by
    intro i hi hne
    obtain rfl | ⟨p, hp, hc⟩ := ReflTransGen.cases_tail hi
    · exact absurd rfl hne
    · refine ⟨p, hp, ?_, fun q hq => h.eq_of_hasChild hq hc⟩
      exact List.count_eq_one_of_mem (h.nodup p) (Array.mem_toList_iff.mpr hc)
  tree := by
    intro i hi tag space attributes hcontent
    obtain ⟨d, hd⟩ := exists_level hi
    have hchildren : (f.childrenOf i).toList.map (f.treeWithin f.slots.size) = f.trees i := by
      refine List.map_congr_left fun c hc => ?_
      have hlevel := Level.child hd (Array.mem_toList_iff.mp hc)
      refine h.treeWithin_eq hlevel ?_ ?_
      · exact Nat.le_add_right _ _
      · exact Nat.le_trans (Nat.le_succ _) (Nat.le_add_right _ _)
    rw [Forest.tree, treeWithin, hcontent, hchildren]

end Linked

end Markup.Forest

/-! ### What requests come to -/

/-- What a list of requests comes to, told without a store. -/
structure Ledger where
  /-- The nodes that there are. -/
  known : List NodeRef
  /-- The links from a parent to a child, in the order in which they were accepted. -/
  links : List (Nat × Nat)
  /-- The attributes that nodes were given, in order. -/
  given : List (Nat × HtmlAttribute)

namespace Ledger

variable {l : Ledger} {p c i : Nat}

/-- There is a root, and nothing else. -/
def start : Ledger := ⟨[some 0], [], []⟩

/-- A link is accepted if there are such nodes, and the child was not linked before. -/
def Accepts (l : Ledger) (p c : Nat) : Prop :=
  some p ∈ l.known ∧ some c ∈ l.known ∧ c ∉ l.links.map Prod.snd

instance (l : Ledger) (p c : Nat) : Decidable (l.Accepts p c) :=
  inferInstanceAs (Decidable (_ ∧ _ ∧ _))

/-- The ledger after one more request. -/
def note (l : Ledger) : SinkEvent → Ledger
  | .element n _ | .text n _ => { l with known := n :: l.known }
  | .setAttribute (some i) name value =>
    if some i ∈ l.known then { l with given := l.given ++ [(i, ⟨"", name, value⟩)] } else l
  | .append (some p) (some c) =>
    if l.Accepts p c then { l with links := l.links ++ [(p, c)] } else l
  | .setAttribute none _ _ | .append _ _ => l

/-- The ledger after requests one after another. -/
def noteAll (l : Ledger) (events : List SinkEvent) : Ledger :=
  events.foldl note l

/-- The children of a node in the order in which they were linked. -/
def childrenOf (l : Ledger) (p : Nat) : List Nat :=
  (l.links.filter (·.1 = p)).map Prod.snd

/-- The attributes that a node was given, in order. -/
def attributesOf (l : Ledger) (i : Nat) : List HtmlAttribute :=
  (l.given.filter (·.1 = i)).map Prod.snd

/-- The children of a node are those that were linked to it. -/
theorem mem_childrenOf : c ∈ l.childrenOf p ↔ (p, c) ∈ l.links := by
  simp [childrenOf]

/-- One more attribute is behind the others of its node, and makes no difference to another. -/
theorem attributesOf_given (l : Ledger) (i j : Nat) (a : HtmlAttribute) :
    { l with given := l.given ++ [(i, a)] }.attributesOf j
      = if i = j then l.attributesOf j ++ [a] else l.attributesOf j := by
  by_cases h : i = j <;> simp [attributesOf, h]

/-- No node has a child twice, if each was linked once. -/
theorem nodup_childrenOf (h : (l.links.map Prod.snd).Nodup) (p : Nat) :
    (l.childrenOf p).Nodup :=
  h.sublist (List.filter_sublist.map _)

/-- Nodes are not taken away. -/
theorem mem_known_noteAll {n : NodeRef} (h : n ∈ l.known) (events : List SinkEvent) :
    n ∈ (l.noteAll events).known := by
  induction events generalizing l with
  | nil => exact h
  | cons ev events ih =>
      refine ih ?_
      unfold note
      split
      · exact List.mem_cons_of_mem _ h
      · exact List.mem_cons_of_mem _ h
      · split <;> exact h
      · split <;> exact h
      · exact h
      · exact h

/-- A node that is not appended is not linked. -/
theorem notMem_links_noteAll {events : List SinkEvent} (hc : ∀ p, .append p (some c) ∉ events)
    (h : c ∉ l.links.map Prod.snd) : c ∉ (l.noteAll events).links.map Prod.snd := by
  induction events generalizing l with
  | nil => exact h
  | cons ev events ih =>
      refine ih (fun p hp => hc p (List.mem_cons_of_mem _ hp)) ?_
      unfold note
      split
      · exact h
      · exact h
      · split <;> exact h
      · next p c' =>
          split
          · have hne : c ≠ c' := fun heq => hc (some p) (heq ▸ List.mem_cons_self)
            simpa [hne] using h
          · exact h
      · exact h
      · exact h

end Ledger

namespace Markup.Forest

variable {f : Forest} {l : Ledger} {p c i : Nat}

/-- The attributes that are kept with a node. -/
def slotAttributes (s : Slot) : List HtmlAttribute :=
  match s.content with
  | .element _ _ attributes => attributes
  | _ => s.idle

/-- The attributes of a node. -/
def attributesOf (f : Forest) (i : Nat) : List HtmlAttribute :=
  (f.slots[i]?.map slotAttributes).getD []

/-- A node that is created without attributes has none, as its number before. -/
theorem attributesOf_create {content : Content}
    (h : slotAttributes ⟨content, none, #[], []⟩ = []) (i : Nat) :
    (f.create content).2.attributesOf i = f.attributesOf i := by
  unfold attributesOf create
  rw [Array.getElem?_push]
  by_cases hi : i = f.slots.size
  · rw [if_pos hi, hi, Array.getElem?_eq_none (Nat.le_refl _)]
    exact h
  · rw [if_neg hi]

/-- An attribute that a node is given is assigned among those that it has. -/
theorem attributesOf_setAttribute_self (h : i < f.size) (name value : String) :
    (f.setAttribute i name value).attributesOf i = assign (f.attributesOf i) name value := by
  obtain ⟨slot, hslot⟩ : ∃ slot, f.slots[i]? = some slot := ⟨_, Array.getElem?_eq_getElem h⟩
  simp only [attributesOf, setAttribute, Array.getElem?_modify, hslot, if_true, Option.map_some,
    Option.getD_some, slotAttributes]
  cases slot.content <;> rfl

/-- The other nodes keep their attributes. -/
theorem attributesOf_setAttribute_of_ne {j : Nat} (h : j ≠ i) (name value : String) :
    (f.setAttribute i name value).attributesOf j = f.attributesOf j := by
  simp only [attributesOf, setAttribute, Array.getElem?_modify, if_neg h.symm]

/-- There is nothing to change at a number that is not in use. -/
theorem setAttribute_of_size_le (h : f.size ≤ i) (name value : String) :
    f.setAttribute i name value = f := by
  unfold setAttribute
  congr 1
  refine Array.ext_getElem? fun j => ?_
  rw [Array.getElem?_modify]
  split
  · next hij => rw [← hij, Array.getElem?_eq_none h, Option.map_none]
  · rfl

/-- Appending changes no attributes. -/
theorem attributesOf_append (f : Forest) (p c i : Nat) :
    (f.append p c).attributesOf i = f.attributesOf i := by
  unfold append
  split
  · simp only [attributesOf, link, Array.getElem?_modify]
    split <;> split <;> cases f.slots[i]? <;> rfl
  · rfl

/-! ### The store and the ledger -/

/-- A store is as the ledger has it. -/
structure Agrees (f : Forest) (l : Ledger) : Prop where
  known : ∀ i, some i ∈ l.known ↔ i < f.size
  once : (l.links.map Prod.snd).Nodup
  parent : ∀ p c, f.parentOf c = some p ↔ (p, c) ∈ l.links
  children : ∀ p, (f.childrenOf p).toList = l.childrenOf p
  attributes : ∀ i, f.attributesOf i = mergeAttributes (l.attributesOf i)

namespace Agrees

/-- A store with the root alone is as the ledger has it at the start. -/
theorem start : (empty.create .fragment).2.Agrees .start where
  known := by simp [Ledger.start, size, create, empty]
  once := List.nodup_nil
  parent := by
    intro p c
    rw [parentOf_create]
    simp [Ledger.start, parentOf, empty]
  children := by
    intro p
    rw [childrenOf_create]
    simp [Ledger.start, Ledger.childrenOf, childrenOf, empty]
  attributes := by
    intro i
    rw [attributesOf_create rfl]
    simp [Ledger.start, Ledger.attributesOf, attributesOf, empty, mergeAttributes]

variable (h : f.Agrees l)

include h

/-- A node that is created without attributes is one more that there is. -/
theorem create {content : Content} (hbare : slotAttributes ⟨content, none, #[], []⟩ = []) :
    (f.create content).2.Agrees { l with known := some f.size :: l.known } where
  known := by
    intro i
    rw [size_create, List.mem_cons, h.known, Option.some_inj]
    omega
  once := h.once
  parent := fun p c => by rw [parentOf_create, h.parent]
  children := fun p => by rw [childrenOf_create, h.children]; rfl
  attributes := fun i => by rw [attributesOf_create hbare, h.attributes]; rfl

/-- An attribute that is set is one more that a node was given. -/
theorem setAttribute (hi : i < f.size) (name value : String) :
    (f.setAttribute i name value).Agrees
      { l with given := l.given ++ [(i, ⟨"", name, value⟩)] } where
  known := fun j => (h.known j).trans (by rw [size_setAttribute])
  once := h.once
  parent := fun p c => by rw [parentOf_setAttribute, h.parent]
  children := fun p => by rw [childrenOf_setAttribute, h.children]; rfl
  attributes := by
    intro j
    rw [Ledger.attributesOf_given]
    by_cases hj : j = i
    · subst hj
      rw [if_pos rfl, attributesOf_setAttribute_self hi, h.attributes, mergeAttributes_concat]
      rfl
    · rw [if_neg (Ne.symm hj), attributesOf_setAttribute_of_ne hj, h.attributes]

/-- The store accepts a child when the ledger does. -/
theorem appendable_iff : f.Appendable p c ↔ l.Accepts p c := by
  have hfree : f.parentOf c = none ↔ c ∉ l.links.map Prod.snd := by
    rw [Option.eq_none_iff_forall_ne_some]
    simp only [ne_eq, h.parent, List.mem_map, Prod.exists, exists_eq_right, not_exists]
  rw [Ledger.Accepts, h.known, h.known, ← hfree]
  exact ⟨fun ha => ⟨ha.1, ha.2, ha.3⟩, fun ha => ⟨ha.1, ha.2.1, ha.2.2⟩⟩

/-- A node that is appended as the ledger accepts it is one more link. -/
theorem append (ha : l.Accepts p c) :
    (f.append p c).Agrees { l with links := l.links ++ [(p, c)] } where
  known := fun i => (h.known i).trans (by rw [size_append])
  once := by
    rw [List.map_append, List.nodup_append']
    exact ⟨h.once, List.nodup_singleton _, List.disjoint_singleton.mpr ha.2.2⟩
  parent := by
    intro q d
    rw [List.mem_append, List.mem_singleton, ← h.parent]
    by_cases hd : c = d
    · subst hd
      have hfree := (h.appendable_iff.mpr ha).free
      rw [parentOf_append_self (h.appendable_iff.mpr ha), hfree]
      simp [eq_comm]
    · rw [parentOf_append _ _ _ _ hd]
      simp [Ne.symm hd]
  children := by
    intro q
    by_cases hq : q = p
    · subst hq
      rw [childrenOf_append_self (h.appendable_iff.mpr ha), Array.toList_push, h.children]
      simp [Ledger.childrenOf]
    · rw [childrenOf_append_of_ne _ _ hq, h.children]
      simp [Ledger.childrenOf, Ne.symm hq]
  attributes := fun i => by rw [attributesOf_append, h.attributes]; rfl

/-- Without a link to the root, the root has a tree below it. -/
theorem linked {root : Nat} (hlt : root < f.size) (hroot : root ∉ l.links.map Prod.snd) :
    f.Linked root where
  lt := hlt
  free := by
    refine Option.eq_none_iff_forall_ne_some.mpr fun p hp => hroot ?_
    exact List.mem_map.mpr ⟨(p, root), (h.parent p root).mp hp, rfl⟩
  parent := by
    intro p c
    rw [HasChild, ← Array.mem_toList_iff, h.children, Ledger.mem_childrenOf, h.parent]
  nodup := fun p => h.children p ▸ Ledger.nodup_childrenOf h.once p

/-- No node has two attributes of one name. -/
theorem names_nodup (i : Nat) : ((f.attributesOf i).map (·.name)).Nodup := by
  rw [h.attributes, mergeAttributes, List.map_map]
  exact (nodup_eraseDups _).map fun _ _ heq => heq

end Agrees

end Markup.Forest

namespace Sink

variable {f f' : Forest} {l : Ledger} {events : List SinkEvent}

/-- Requests keep the store and the ledger together. -/
theorem Takes.agrees_html (h : Sink.html.Takes f events f') (hf : f.Agrees l) :
    f'.Agrees (l.noteAll events) := by
  induction h generalizing l with
  | nil f => exact hf
  | element tag _ ih => exact ih (hf.create rfl)
  | text t _ ih => exact ih (hf.create rfl)
  -- A request that names no node, or none that there is, changes neither the store nor the ledger.
  | @setAttribute f _ _ node name value _ ih =>
      refine ih ?_
      rcases node with _ | i
      · exact hf
      · rw [Ledger.note]
        by_cases hi : i < f.size
        · rw [if_pos ((hf.known i).mpr hi)]
          exact hf.setAttribute hi name value
        · rw [if_neg (mt (hf.known i).mp hi)]
          rw [show Sink.html.setAttribute (some i) name value f = f from
            f.setAttribute_of_size_le (Nat.le_of_not_lt hi) name value]
          exact hf
  | @append f _ _ parent child _ ih =>
      refine ih ?_
      rcases parent with _ | p
      · exact hf
      · rcases child with _ | c
        · exact hf
        · rw [Ledger.note]
          -- The ledger accepts a link exactly where the store makes it.
          by_cases ha : l.Accepts p c
          · rw [if_pos ha]
            exact hf.append ha
          · rw [if_neg ha]
            rw [show Sink.html.append (some p) (some c) f = f from
              Forest.append_of_not_appendable (mt hf.appendable_iff.mp ha)]
            exact hf

/-- **The output is a tree.** A list of requests is made to the markup sink, with any nodes, but the
root is not appended to anything. Then the root has a finite tree below it. The children of a node
are those that were appended to it first, in this order. Its attributes have different names, in the
order in which these were given first, and the values that were given last. -/
theorem Takes.output_html (h : Sink.html.Takes (Forest.empty.create .fragment).2 events f)
    (hroot : ∀ p, .append p (some 0) ∉ events) :
    f.Rooted 0 ∧ ∀ i,
      (f.childrenOf i).toList = (Ledger.start.noteAll events).childrenOf i ∧
      f.attributesOf i = mergeAttributes ((Ledger.start.noteAll events).attributesOf i) ∧
      ((f.attributesOf i).map (·.name)).Nodup := by
  have hagrees := h.agrees_html .start
  have hlt := (hagrees.known 0).mp (Ledger.mem_known_noteAll List.mem_cons_self events)
  have hfree := Ledger.notMem_links_noteAll hroot (l := .start) List.not_mem_nil
  exact ⟨(hagrees.linked hlt hfree).rooted, fun i =>
    ⟨hagrees.children i, hagrees.attributes i, hagrees.names_nodup i⟩⟩

/-- Two elements in each other and one in itself, and beside them a text and an element that is
appended twice. -/
theorem Takes.output_html_cycle :
    let events : List SinkEvent :=
      [.element (some 1) "a", .element (some 2) "b", .append (some 1) (some 2),
        .append (some 2) (some 1), .append (some 0) (some 1), .element (some 3) "c",
        .append (some 3) (some 3), .append (some 0) (some 3), .text (some 4) "t",
        .append (some 0) (some 4), .element (some 5) "p", .setAttribute (some 5) "id" "x",
        .setAttribute (some 5) "class" "y", .setAttribute (some 5) "id" "z",
        .append (some 0) (some 5), .append (some 2) (some 5)]
    ∃ f, Sink.html.Takes (Forest.empty.create .fragment).2 events f ∧
      (∀ p, .append p (some 0) ∉ events) ∧ f.parentOf 1 = some 2 ∧ f.parentOf 2 = some 1 ∧
      f.parentOf 3 = some 3 ∧ f.Rooted 0 ∧ (f.childrenOf 0).toList = [4, 5] ∧
      f.attributesOf 5 = [⟨"", "id", "z"⟩, ⟨"", "class", "y"⟩] := by
  intro events
  have htakes : ∃ f, Sink.html.Takes (Forest.empty.create .fragment).2 events f :=
    ⟨_, .element _ (.element _ (.append _ _ (.append _ _ (.append _ _ (.element _ (.append _ _
      (.append _ _ (.text _ (.append _ _ (.element _ (.setAttribute _ _ _ (.setAttribute _ _ _
        (.setAttribute _ _ _ (.append _ _ (.append _ _ (.nil _))))))))))))))))⟩
  have hroot : ∀ p, .append p (some 0) ∉ events := by simp [events]
  obtain ⟨f, hf⟩ := htakes
  obtain ⟨hrooted, hnode⟩ := hf.output_html hroot
  have hagrees := hf.agrees_html .start
  refine ⟨f, hf, hroot, ?_, ?_, ?_, hrooted, ?_, ?_⟩
  · exact (hagrees.parent 2 1).mpr (by decide)
  · exact (hagrees.parent 1 2).mpr (by decide)
  · exact (hagrees.parent 3 3).mpr (by decide)
  · exact (hnode 0).1.trans (by decide)
  · exact (hnode 5).2.1.trans (by decide)

end Sink

end TagScript
