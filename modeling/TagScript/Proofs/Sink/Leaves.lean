import TagScript.Eval.Result

/-!
# `TagScript.Proofs.Sink.Leaves`: what a result comes out as

A result is a tree. Its inner nodes are lists, and arrays that are still to be rendered. Its
leaves are output nodes, and values that are no arrays. `Result.parts` are the members of a
list or the elements of an array, and `Result.leaf?` is the leaf that a result is by itself. So
lists and arrays are walked in one way, although they are two recursions one inside the other.

`Result.LeafAt` says where a leaf stands: an index for each list or array on the way down. The
order from left to right, depth first, is the order of these positions, index by index.

* `Result.induction`: what holds of a result if it holds of its parts holds of every result.
* `Result.flatten_eq`: to flatten a result is to emit its leaves one after another.
* `Result.Regroups`: how a result may be grouped in another way. The leaves stay
  (`Regroups.leaves_eq`).
* `Result.flatten_inOrder`: the leaves that come out are those of the result, in the order of
  their positions, however they are grouped.
-/

set_option autoImplicit false

namespace TagScript

variable {σ : Type}

/-- A leaf of a result: an output node, or the text of a value. -/
inductive Leaf where
  | node (n : Nat)
  | text (s : String)
deriving Repr, DecidableEq

/-- Append a leaf to a parent. A text is made for it first. -/
def Leaf.emit (sink : Sink σ) (parent : NodeRef) (s : σ) : Leaf → σ
  | .node n => sink.append parent (some n) s
  | .text t => sink.append parent (sink.text t s).1 (sink.text t s).2

namespace Result

/-! ### Results as trees -/

/-- The leaf that a result is by itself. -/
def leaf? : Result → Option Leaf
  | .output node => node.map .node
  | .none | .list _ | .scalar .null | .scalar (.array _ _) => Option.none
  | .scalar v => some (.text v.toText)

/-- The members of a list, or the elements of an array. -/
def parts : Result → List Result
  | .list items => items
  | .scalar (.array _ items) => items.map .scalar
  | _ => []

/-- A part is smaller than the whole. -/
theorem sizeOf_lt_of_mem_parts {r c : Result} (h : c ∈ r.parts) : sizeOf c < sizeOf r := by
  unfold parts at h
  split at h
  · have hlt := List.sizeOf_lt_of_mem h
    simp only [list.sizeOf_spec]
    omega
  · obtain ⟨v, hv, rfl⟩ := List.mem_map.mp h
    have hlt := List.sizeOf_lt_of_mem hv
    simp only [scalar.sizeOf_spec, Value.array.sizeOf_spec]
    omega
  · cases h

/-- What holds of a result whenever it holds of its parts holds of every result. -/
theorem induction {P : Result → Prop} (h : ∀ r, (∀ c ∈ r.parts, P c) → P r) (r : Result) : P r :=
  h r fun c _ => induction h c
termination_by sizeOf r
decreasing_by exact sizeOf_lt_of_mem_parts ‹_›

/-- The leaves of a result from left to right, depth first. -/
def leaves (r : Result) : List Leaf :=
  r.leaf?.toList ++ r.parts.attach.flatMap fun c => c.1.leaves
termination_by sizeOf r
decreasing_by exact sizeOf_lt_of_mem_parts c.2

/-- The leaves of a result are itself, if it is one, and those of its parts in order. -/
theorem leaves_eq (r : Result) : r.leaves = r.leaf?.toList ++ r.parts.flatMap leaves := by
  rw [leaves, List.flatMap_subtype fun _ _ => rfl, List.unattach_attach]

/-- The leaves of a list are those of its members in order. -/
theorem leaves_list (items : List Result) : (list items).leaves = items.flatMap leaves :=
  leaves_eq _

/-- What is no leaf and has no parts has no leaves. -/
theorem leaves_of_nothing {r : Result} (hleaf : r.leaf? = Option.none) (hparts : r.parts = []) :
    r.leaves = [] := by
  rw [leaves_eq, hleaf, hparts]
  rfl

/-! ### Flattening follows the leaves -/

variable (sink : Sink σ) (parent : NodeRef)

/-- The elements of an array are flattened one after another. -/
private theorem appendValues_eq (items : List Value) (s : σ) :
    appendValues sink parent items s
      = items.foldl (fun s v => flatten sink parent (.scalar v) s) s := by
  induction items generalizing s with
  | nil => rfl
  | cons v rest ih =>
      simp only [appendValues, List.foldl_cons, flatten]
      exact ih _

/-- The members of a list are flattened one after another. -/
private theorem flattenAll_eq (items : List Result) (s : σ) :
    flattenAll sink parent items s = items.foldl (fun s r => r.flatten sink parent s) s := by
  induction items generalizing s with
  | nil => rfl
  | cons r rest ih =>
      simp only [flattenAll, List.foldl_cons]
      exact ih _

/-- Flattening emits the leaf that a result is by itself, and flattens its parts in order. -/
private theorem flatten_parts (r : Result) (s : σ) :
    r.flatten sink parent s
      = r.parts.foldl (fun s c => c.flatten sink parent s)
          (r.leaf?.toList.foldl (Leaf.emit sink parent) s) := by
  cases r with
  | none => rfl
  | list items => exact flattenAll_eq sink parent items s
  | output node => cases node <;> rfl
  | scalar v =>
      cases v with
      | array identity items =>
          simp only [flatten, appendValue, parts, List.foldl_map]
          exact appendValues_eq sink parent items s
      | _ => rfl

/-- To flatten a result is to emit its leaves one after another. -/
theorem flatten_eq (r : Result) (s : σ) :
    r.flatten sink parent s = r.leaves.foldl (Leaf.emit sink parent) s := by
  induction r using induction generalizing s with
  | h r ih =>
      rw [flatten_parts, leaves_eq, List.foldl_append, List.foldl_flatMap]
      refine List.foldl_rel rfl ?_
      rintro c hc s _ rfl
      exact ih c hc s

/-! ### Where the leaves stand -/

/-- At the position `p` of the result stands the leaf. -/
inductive LeafAt : Result → List Nat → Leaf → Prop where
  | self {r : Result} {l : Leaf} (h : r.leaf? = some l) : LeafAt r [] l
  | part {r c : Result} {k : Nat} {p : List Nat} {l : Leaf} (hk : r.parts[k]? = some c)
      (h : LeafAt c p l) : LeafAt r (k :: p) l

/-- The entries are what stands at which position, each position once, in the order of the
positions. -/
structure InOrder (stands : List Nat → Leaf → Prop) (entries : List (List Nat × Leaf)) :
    Prop where
  increasing : entries.Pairwise fun a b => a.1 < b.1
  mem_iff : ∀ p l, (p, l) ∈ entries ↔ stands p l

/-- A result that is a leaf by itself has no parts. -/
private theorem parts_eq_nil {r : Result} {l : Leaf} (h : r.leaf? = some l) : r.parts = [] := by
  cases r with
  | none | list _ => cases h
  | output _ => rfl
  | scalar v =>
      cases v with
      | null | array _ _ => cases h
      | _ => rfl

/-- What stands below several results, of which the first has the number `n`. -/
private def Below (n : Nat) (cs : List Result) (p : List Nat) (l : Leaf) : Prop :=
  ∃ k c q, cs[k]? = some c ∧ p = (n + k) :: q ∧ c.LeafAt q l

/-- Below a list stands what stands in its first member, or below the list of the others. -/
private theorem below_cons {n : Nat} {c : Result} {cs : List Result} {p : List Nat} {l : Leaf} :
    Below n (c :: cs) p l ↔ (∃ q, p = n :: q ∧ c.LeafAt q l) ∨ Below (n + 1) cs p l := by
  constructor
  · rintro ⟨k, d, q, hk, rfl, h⟩
    cases k with
    | zero =>
        cases hk
        exact Or.inl ⟨q, rfl, h⟩
    | succ k => exact Or.inr ⟨k, d, q, hk, by rw [Nat.add_right_comm, Nat.add_assoc], h⟩
  · rintro (⟨q, rfl, h⟩ | ⟨k, d, q, hk, rfl, h⟩)
    · exact ⟨0, c, q, rfl, rfl, h⟩
    · exact ⟨k + 1, d, q, hk, by rw [Nat.add_right_comm, Nat.add_assoc], h⟩

/-- The leaves of several results one after another are in order if those of each are. -/
private theorem exists_inOrder_below (cs : List Result)
    (h : ∀ c ∈ cs, ∃ entries, InOrder c.LeafAt entries ∧ entries.map (·.2) = c.leaves) (n : Nat) :
    ∃ entries, InOrder (Below n cs) entries ∧ entries.map (·.2) = cs.flatMap leaves := by
  induction cs generalizing n with
  | nil => exact ⟨[], ⟨.nil, by simp [Below]⟩, rfl⟩
  | cons c cs ih =>
      obtain ⟨first, hfirst, hleaves⟩ := h c List.mem_cons_self
      obtain ⟨rest, hrest, hleaves'⟩ := ih (fun c hc => h c (List.mem_cons_of_mem _ hc)) (n + 1)
      refine ⟨first.map (fun e => (n :: e.1, e.2)) ++ rest, ⟨?_, ?_⟩, ?_⟩
      · rw [List.pairwise_append, List.pairwise_map]
        refine ⟨hfirst.increasing.imp fun hlt => ?_, hrest.increasing, ?_⟩
        · exact List.cons_lt_cons_iff.mpr (Or.inr ⟨rfl, hlt⟩)
        · -- What comes later has a greater first index.
          rintro ⟨_, _⟩ ha ⟨p, l⟩ hb
          obtain ⟨e, -, he⟩ := List.mem_map.mp ha
          obtain ⟨k, _, q, -, rfl, -⟩ := (hrest.mem_iff p l).mp hb
          cases he
          exact List.cons_lt_cons_iff.mpr (Or.inl (by omega))
      · intro p l
        rw [List.mem_append, hrest.mem_iff, below_cons, List.mem_map]
        refine or_congr_left ⟨?_, ?_⟩
        · rintro ⟨e, he, heq⟩
          cases heq
          exact ⟨e.1, rfl, (hfirst.mem_iff _ _).mp he⟩
        · rintro ⟨q, rfl, hq⟩
          exact ⟨(q, l), (hfirst.mem_iff _ _).mpr hq, rfl⟩
      · rw [List.map_append, List.map_map, List.flatMap_cons, ← hleaves, ← hleaves']
        rfl

/-- The leaves of a result, with their positions, are in order. -/
theorem exists_inOrder (r : Result) :
    ∃ entries, InOrder r.LeafAt entries ∧ entries.map (·.2) = r.leaves := by
  induction r using induction with
  | h r ih =>
      rw [leaves_eq]
      cases hleaf : r.leaf? with
      | some l =>
          -- A leaf by itself stands at the top. It has no parts.
          refine ⟨[([], l)], ⟨List.pairwise_singleton _ _, fun p m => ?_⟩, ?_⟩
          · rw [List.mem_singleton, Prod.mk.injEq]
            constructor
            · rintro ⟨rfl, rfl⟩
              exact .self hleaf
            · rintro (h | ⟨hk, -⟩)
              · exact ⟨rfl, Option.some.inj (h.symm.trans hleaf)⟩
              · rw [parts_eq_nil hleaf] at hk
                cases hk
          · rw [parts_eq_nil hleaf]
            rfl
      | none =>
          -- Otherwise all leaves stand below one of the parts.
          obtain ⟨entries, hentries, hleaves⟩ := exists_inOrder_below r.parts ih 0
          refine ⟨entries, ⟨hentries.increasing, fun p l => ?_⟩, hleaves⟩
          rw [hentries.mem_iff]
          constructor
          · rintro ⟨k, c, q, hk, rfl, h⟩
            rw [Nat.zero_add]
            exact .part hk h
          · rintro (h | ⟨hk, h⟩)
            · rw [hleaf] at h
              cases h
            · exact ⟨_, _, _, hk, by rw [Nat.zero_add], h⟩

/-! ### Grouping -/

/-- The same leaves grouped in another way: a list inside a list may be put in its place or
taken out of it, what is no leaf and has no parts may be put in or left out, a list of one may
stand for its member, and an array for the list of its elements. All this may be done anywhere
inside a result. -/
inductive Regroups : Result → Result → Prop where
  | refl (r : Result) : Regroups r r
  | symm {r r' : Result} (h : Regroups r r') : Regroups r' r
  | trans {r r' r'' : Result} (h : Regroups r r') (h' : Regroups r' r'') : Regroups r r''
  | splice (before inner after : List Result) :
      Regroups (.list (before ++ .list inner :: after)) (.list (before ++ inner ++ after))
  | nothing {r : Result} (before after : List Result) (hleaf : r.leaf? = Option.none)
      (hparts : r.parts = []) :
      Regroups (.list (before ++ r :: after)) (.list (before ++ after))
  | single (r : Result) : Regroups (.list [r]) r
  | array (identity : Nat) (items : List Value) :
      Regroups (.scalar (.array identity items)) (.list (items.map .scalar))
  | inside {r r' : Result} (before after : List Result) (h : Regroups r r') :
      Regroups (.list (before ++ r :: after)) (.list (before ++ r' :: after))

/-- Grouping changes no leaf and no order of leaves. -/
theorem Regroups.leaves_eq {r r' : Result} (h : r.Regroups r') : r'.leaves = r.leaves := by
  induction h with
  | refl r => rfl
  | symm _ ih => exact ih.symm
  | trans _ _ ih ih' => exact ih'.trans ih
  | splice before inner after => simp [leaves_list]
  | nothing before after hleaf hparts =>
      have hnone := leaves_of_nothing hleaf hparts
      simp [leaves_list, hnone]
  | single r => simp [leaves_list]
  | array identity items => rw [leaves_list, Result.leaves_eq (.scalar _)]; rfl
  | inside before after _ ih => simp [leaves_list, ih]

/-- **What a result comes out as.** Take any result. There is a list of its leaves with their
positions, which has each leaf once, in the order of the positions, and nothing else. With any
sink and any parent, flattening the result is to emit these leaves one after another: an output
node is appended, and for a value a text is made and appended. A result that is grouped in
another way is flattened to the same. -/
theorem flatten_inOrder (r : Result) :
    (∃ entries, InOrder r.LeafAt entries ∧
      ∀ (σ : Type) (sink : Sink σ) (parent : NodeRef) (s : σ),
        r.flatten sink parent s = (entries.map (·.2)).foldl (Leaf.emit sink parent) s) ∧
    ∀ r', r.Regroups r' → ∀ (σ : Type) (sink : Sink σ) (parent : NodeRef) (s : σ),
      r'.flatten sink parent s = r.flatten sink parent s := by
  constructor
  · obtain ⟨entries, hentries, hleaves⟩ := r.exists_inOrder
    refine ⟨entries, hentries, fun σ sink parent s => ?_⟩
    rw [hleaves, flatten_eq]
  · intro r' h σ sink parent s
    rw [flatten_eq, flatten_eq, h.leaves_eq]

/-- An array in a list comes out as its elements do, and a null as nothing. -/
theorem flatten_inOrder_array :
    let r : Result := .list [.scalar (.array 0 [.text "a", .null]), .output (some 7)]
    let r' : Result := .list [.scalar (.text "a"), .output (some 7)]
    r.Regroups r' ∧
      r'.flatten .trace (some 0) default = r.flatten .trace (some 0) default := by
  intro r r'
  have harray : r.Regroups (.list [.list [.scalar (.text "a"), .scalar .null], .output (some 7)]) :=
    .inside [] [.output (some 7)] (.array 0 [.text "a", .null])
  have hsplice : r.Regroups (.list [.scalar (.text "a"), .scalar .null, .output (some 7)]) :=
    harray.trans (.splice [] [.scalar (.text "a"), .scalar .null] [.output (some 7)])
  have hr' : r.Regroups r' :=
    hsplice.trans (.nothing [.scalar (.text "a")] [.output (some 7)] rfl rfl)
  exact ⟨hr', (flatten_inOrder r).2 r' hr' Trace .trace (some 0) default⟩

end Result

end TagScript
