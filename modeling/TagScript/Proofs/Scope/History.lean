import Mathlib.Data.List.Find
import TagScript.Proofs.Scope.Growth
import TagScript.Proofs.Scope.Operands

/-!
# `TagScript.Proofs.Scope.History`: a tree of scopes, told from what was done with it

A tree of scopes keeps, with each scope, the number of an operand stack, a depth and a parent.
None of this is given from outside. It comes of what was done: scopes were entered, and in the
scopes that there were then, names were bound and values pushed and popped. `History` is what
was done, in any order and in any scopes, and `History.tree` the tree that comes of it.

The functions below tell the same without a tree, by recursion on the history. `path` are the
scopes from a scope out to the root, and `nearest` is the first boundary among them. A scope
sees the variables of the scopes that are `visible` from it, up to its nearest boundary, and
the functions of its whole path. Its operands are what was pushed and not popped by the scopes
that have the same nearest boundary (`operands`).

`Represents` says of a tree that it keeps all that rightly. A new tree does, and each action
keeps it so (`Represents.act`). The action that counts is to enter a scope: what is kept about
the new scope comes from the scope that it is entered from.

* `tree_represents`: what scopes share and see is what the history says.
-/

set_option autoImplicit false

namespace TagScript.Scope

/-- Something that is done with a tree, from one of its scopes. -/
inductive Action where
  | enter (scope : Nat) (boundary : Bool)
  | set (scope : Nat) (name : String) (v : Value)
  | define (scope : Nat) (name : String) (f : Function)
  | push (scope : Nat) (v : Value)
  | pop (scope : Nat)

/-- The scope from which it is done. -/
def Action.scope : Action → Nat
  | .enter i _ | .set i _ _ | .define i _ _ | .push i _ | .pop i => i

/-- The tree after an action. -/
def Tree.act (t : Tree) : Action → Tree
  | .enter i boundary => (t.enter i boundary).2
  | .set i name v => t.set i name v
  | .define i name f => t.define i name f
  | .push i v => t.push i v
  | .pop i => t.drop i

/-- What was done, the last first. -/
abbrev History := List Action

namespace Tree

variable {t t' : Tree} {e i : Nat}

/-- A step leaves every scope the stack that it has. -/
theorem Step.stackOf?_eq (h : Step e t t') (i : Nat) : t'.stackOf? i = t.stackOf? i := by
  have hbare := congrArg (Option.map (·.stack)) (h.bare i)
  rw [Option.map_map, Option.map_map] at hbare
  exact hbare

/-- A value that is pushed from one scope lies on top for every scope with the same stack. -/
theorem operands_push_of_lt (hv : t.Valid) (hi : i < t.scopes.size) (e : Nat) (v : Value) :
    (t.push e v).operands i
      = if t.stackOf? e = t.stackOf? i then v :: t.operands i else t.operands i := by
  obtain ⟨s, hs⟩ := exists_get? hi
  have hstack : t.stackOf? i = some s.stack := by rw [stackOf?, hs, Option.map_some]
  rw [operands_eq, operands_eq, (Step.push t v : Step e t _).stackOf?_eq, hstack,
    Option.bind_some, Option.bind_some, operandStacks_push,
    Array.getElem?_eq_getElem (hv.stack_lt hs)]
  split <;> rfl

/-- What is dropped from one scope is gone for every scope with the same stack. -/
theorem operands_drop_of_lt (hv : t.Valid) (hi : i < t.scopes.size) (e : Nat) :
    (t.drop e).operands i
      = if t.stackOf? e = t.stackOf? i then (t.operands i).tail else t.operands i := by
  obtain ⟨s, hs⟩ := exists_get? hi
  have hstack : t.stackOf? i = some s.stack := by rw [stackOf?, hs, Option.map_some]
  rw [operands_eq, operands_eq, (Step.drop t : Step e t _).stackOf?_eq, hstack,
    Option.bind_some, Option.bind_some, operandStacks_drop,
    Array.getElem?_eq_getElem (hv.stack_lt hs)]
  split <;> rfl

end Tree

namespace History

/-- The tree that comes of a history. Its root began with the given variables. -/
def tree (vars : Table Value) (fresh : Nat) : History → Tree
  | [] => Tree.root vars fresh
  | a :: h => (tree vars fresh h).act a

/-- How many scopes there are. A scope that is entered gets the next number. -/
def count : History → Nat
  | [] => 1
  | .enter _ _ :: h => count h + 1
  | _ :: h => count h

/-- Everything was done from scopes that there were at the time. -/
def Possible : History → Prop
  | [] => True
  | a :: h => a.scope < count h ∧ Possible h

instance : DecidablePred Possible
  | [] => isTrue trivial
  | a :: h =>
    have : Decidable (Possible h) := instDecidablePredPossible h
    inferInstanceAs (Decidable (a.scope < count h ∧ Possible h))

/-- Whether a scope is a boundary. The root is one. -/
def boundary : History → Nat → Bool
  | [], i => i == 0
  | .enter _ b :: h, i => if i = count h then b else boundary h i
  | _ :: h, i => boundary h i

/-- The scopes from a scope out to the root, both included. -/
def path : History → Nat → List Nat
  | [], _ => [0]
  | .enter p _ :: h, i => if i = count h then i :: path h p else path h i
  | _ :: h, i => path h i

/-- The nearest boundary on the path of a scope. -/
def nearest (h : History) (i : Nat) : Option Nat :=
  (path h i).find? (boundary h)

/-- The scopes from a scope out to its nearest boundary, both included. -/
def visible (h : History) (i : Nat) : List Nat :=
  (path h i).takeWhile (fun k => !boundary h k) ++ (nearest h i).toList

/-- How many boundaries there are on the path of a scope, other than the root. -/
def depth (h : History) (i : Nat) : Nat :=
  (path h i).countP fun k => k != 0 && boundary h k

/-- What a scope itself has under a name: the variable that was set there last. -/
def variableIn (vars : Table Value) (name : String) : History → Nat → Option Value
  | [], i => if i = 0 then vars.find? name else none
  | .set j other v :: h, i => if j = i ∧ other = name then some v else variableIn vars name h i
  | _ :: h, i => variableIn vars name h i

/-- The same for functions. The root begins with the built-in operations. -/
def functionIn (name : String) : History → Nat → Option Function
  | [], i => if i = 0 then prelude.find? name else none
  | .define j other f :: h, i => if j = i ∧ other = name then some f else functionIn name h i
  | _ :: h, i => functionIn name h i

/-- The operands of a scope, the top first. Scopes with the same nearest boundary work on the
same operands. -/
def operands : History → Nat → List Value
  | [], _ => []
  | .enter p b :: h, i =>
    if i = count h then (if b then [] else operands h p) else operands h i
  | .push j v :: h, i => if nearest h j = nearest h i then v :: operands h i else operands h i
  | .pop j :: h, i => if nearest h j = nearest h i then (operands h i).tail else operands h i
  | _ :: h, i => operands h i

/-! ### What a history says of the scopes that there were before -/

section

variable {h : History} {i : Nat}

/-- A path leads through scopes that there are. -/
theorem lt_of_mem_path (hp : Possible h) (hi : i < count h) {k : Nat} (hk : k ∈ path h i) :
    k < count h := by
  induction h generalizing i with
  | nil => exact List.mem_singleton.mp hk ▸ Nat.zero_lt_one
  | cons a h ih =>
      cases a with
      | enter p b =>
          simp only [path] at hk
          simp only [count] at hi ⊢
          split at hk
          · rcases List.mem_cons.mp hk with rfl | hk
            · exact hi
            · exact Nat.lt_succ_of_lt (ih hp.2 hp.1 hk)
          · exact Nat.lt_succ_of_lt (ih hp.2 (by omega) hk)
      | _ => exact ih hp.2 hi hk

/-- A scope that is there is a boundary, or none, for good. -/
theorem boundary_cons (a : Action) (hi : i < count h) : boundary (a :: h) i = boundary h i := by
  cases a with
  | enter p b => exact if_neg (Nat.ne_of_lt hi)
  | _ => rfl

/-- It stays where it is. -/
theorem path_cons (a : Action) (hi : i < count h) : path (a :: h) i = path h i := by
  cases a with
  | enter p b => exact if_neg (Nat.ne_of_lt hi)
  | _ => rfl

/-- Later actions do not change the nearest boundary of a scope. -/
theorem nearest_cons (a : Action) (hp : Possible h) (hi : i < count h) :
    nearest (a :: h) i = nearest h i := by
  rw [nearest, path_cons a hi, nearest]
  exact List.find?_congr fun k hk => boundary_cons a (lt_of_mem_path hp hi hk)

/-- Nor do they change its depth. -/
theorem depth_cons (a : Action) (hp : Possible h) (hi : i < count h) :
    depth (a :: h) i = depth h i := by
  rw [depth, path_cons a hi, depth]
  refine List.countP_congr fun k hk => ?_
  rw [boundary_cons a (lt_of_mem_path hp hi hk)]

/-- The nearest boundary of a scope is a scope. -/
theorem lt_of_nearest (hp : Possible h) (hi : i < count h) {k : Nat}
    (hk : nearest h i = some k) : k < count h :=
  lt_of_mem_path hp hi (List.mem_of_find?_eq_some hk)

/-- Nothing was done in a scope that is not there yet. -/
theorem variableIn_of_count_le (vars : Table Value) (name : String) (hp : Possible h)
    (hi : count h ≤ i) : variableIn vars name h i = none := by
  induction h with
  | nil => exact if_neg (Nat.ne_of_gt hi)
  | cons a h ih =>
      cases a with
      | enter p b => exact ih hp.2 (Nat.le_of_succ_le hi)
      | set j other v =>
          have hne : ¬ (j = i ∧ other = name) := fun heq =>
            Nat.not_lt.mpr hi (heq.1 ▸ hp.1)
          exact (if_neg hne).trans (ih hp.2 hi)
      | _ => exact ih hp.2 hi

/-- A scope that is not there yet has no functions. -/
theorem functionIn_of_count_le (name : String) (hp : Possible h) (hi : count h ≤ i) :
    functionIn name h i = none := by
  induction h with
  | nil => exact if_neg (Nat.ne_of_gt hi)
  | cons a h ih =>
      cases a with
      | enter p b => exact ih hp.2 (Nat.le_of_succ_le hi)
      | define j other f =>
          have hne : ¬ (j = i ∧ other = name) := fun heq =>
            Nat.not_lt.mpr hi (heq.1 ▸ hp.1)
          exact (if_neg hne).trans (ih hp.2 hi)
      | _ => exact ih hp.2 hi

end

/-! ### The scope that is entered -/

section

variable {h : History} {p : Nat} {b : Bool}

/-- The scope that is entered is a boundary if it is entered as one. -/
theorem boundary_enter : boundary (.enter p b :: h) (count h) = b :=
  if_pos rfl

/-- The way out leads through the scope that it was entered from. -/
theorem path_enter : path (.enter p b :: h) (count h) = count h :: path h p :=
  if_pos rfl

/-- A boundary is its own nearest one. Any other scope has that of the scope around it. -/
theorem nearest_enter (hp : Possible (.enter p b :: h)) :
    nearest (.enter p b :: h) (count h) = if b then some (count h) else nearest h p := by
  have hlt : p < count h := hp.1
  have houter := nearest_cons (.enter p b) hp.2 hlt
  rw [nearest, path_cons _ hlt] at houter
  rw [nearest, path_enter, List.find?_cons, boundary_enter]
  cases b with
  | true => rfl
  | false => exact houter

/-- A boundary is one deeper than the scope around it. -/
theorem depth_enter (hp : Possible (.enter p b :: h)) :
    depth (.enter p b :: h) (count h) = depth h p + if b then 1 else 0 := by
  have hlt : p < count h := hp.1
  have houter := depth_cons (.enter p b) hp.2 hlt
  have hnew : count h ≠ 0 := Nat.ne_of_gt (Nat.zero_lt_of_lt hlt)
  rw [depth, path_cons _ hlt] at houter
  rw [depth, path_enter, List.countP_cons, boundary_enter, houter]
  simp [hnew]

/-- Every scope has a nearest boundary, since the root is one. -/
theorem isSome_nearest {i : Nat} (hp : Possible h) (hi : i < count h) :
    (nearest h i).isSome := by
  induction h generalizing i with
  | nil => rfl
  | cons a h ih =>
      cases a with
      | enter p b =>
          rcases Nat.lt_succ_iff_lt_or_eq.mp hi with hold | rfl
          · rw [nearest_cons _ hp.2 hold]
            exact ih hp.2 hold
          · rw [nearest_enter hp]
            cases b with
            | true => rfl
            | false => exact ih hp.2 hp.1
      | _ => exact ih hp.2 hi

/-- A boundary sees no scope around it. -/
theorem visible_of_boundary {i : Nat} {rest : List Nat} (hb : boundary h i = true)
    (hpath : path h i = i :: rest) : visible h i = [i] := by
  simp [visible, nearest, hpath, hb]

/-- Any other scope sees what the scope around it sees. -/
theorem visible_of_not_boundary {i : Nat} (hb : boundary h i = false)
    (hpath : path h i = i :: path h p) : visible h i = i :: visible h p := by
  simp [visible, nearest, hpath, hb]

end

/-! ### Trees that keep what the history says -/

/-- What is kept of scope `i` in its frame is what the history says of it. -/
structure Keeps (vars : Table Value) (h : History) (i : Nat) (s : Frame) : Prop where
  /-- The root is a boundary and the end of every path. -/
  root : s.parent = none → path h i = [i] ∧ boundary h i = true
  parent : ∀ p, s.parent = some p → path h i = i :: path h p
  boundary : s.boundary = boundary h i
  depth : s.depth = depth h i
  vars : ∀ name, s.vars.find? name = variableIn vars name h i
  funcs : ∀ name, s.funcs.find? name = functionIn name h i

/-- The tree keeps what the history says. -/
structure Represents (vars : Table Value) (h : History) (t : Tree) : Prop where
  valid : t.Valid
  size : t.scopes.size = count h
  frame : ∀ {i s}, t.get? i = some s → Keeps vars h i s
  /-- Scopes have one stack in common if they have the same nearest boundary, and only then. -/
  share : ∀ {i j}, i < count h → j < count h →
    (t.stackOf? i = t.stackOf? j ↔ nearest h i = nearest h j)
  operands : ∀ {i}, i < count h → t.operands i = operands h i

namespace Represents

variable {vars : Table Value} {h : History} {t : Tree}

/-- A new tree keeps all rightly when nothing has been done. -/
theorem root (vars : Table Value) (fresh : Nat) : Represents vars [] (Tree.root vars fresh) where
  valid := (Tree.Reachable.root vars fresh).valid
  size := rfl
  frame {i s} hs := by
    have hi : i = 0 := Nat.lt_one_iff.mp (Tree.lt_of_get? hs)
    subst hi
    cases hs
    exact ⟨fun _ => ⟨rfl, rfl⟩, nofun, rfl, rfl, fun _ => rfl, fun _ => rfl⟩
  share {i j} hi hj := by
    rw [Nat.lt_one_iff.mp hi, Nat.lt_one_iff.mp hj]
    exact ⟨fun _ => rfl, fun _ => rfl⟩
  operands {i} hi := by
    rw [Nat.lt_one_iff.mp hi]
    rfl

/-- What is kept of a new scope comes from the scope around it. What is kept of the others
stays right. -/
theorem frame_enter (r : Represents vars h t) {p : Nat} {b : Bool}
    (hp : Possible (.enter p b :: h)) {i : Nat} {s : Frame}
    (hs : (t.enter p b).2.get? i = some s) : Keeps vars (.enter p b :: h) i s := by
  have hlt : p < count h := hp.1
  have hi := Tree.lt_of_get? hs
  rw [Tree.size_scopes_enter, r.size] at hi
  rcases Nat.lt_succ_iff_lt_or_eq.mp hi with hold | rfl
  · rw [Tree.get?_enter_of_lt t b (r.size ▸ hold)] at hs
    have k := r.frame hs
    refine ⟨fun hnone => ?_, fun q hq => ?_, ?_, ?_, k.vars, k.funcs⟩
    · rw [path_cons _ hold, boundary_cons _ hold]
      exact k.root hnone
    · -- The parent is older, so its path has not changed either.
      have hq' : q < count h := Nat.lt_trans (r.valid.parent_lt hs hq) hold
      rw [path_cons _ hold, path_cons _ hq']
      exact k.parent q hq
    · rw [boundary_cons _ hold]
      exact k.boundary
    · rw [depth_cons _ hp.2 hold]
      exact k.depth
  · rw [← r.size, Tree.get?_enter_self, Option.some.injEq] at hs
    obtain ⟨outer, houter⟩ := Tree.exists_get? (r.size ▸ hlt : p < t.scopes.size)
    have hdepth := (r.frame houter).depth
    have hvars := fun name => variableIn_of_count_le vars name hp.2 (Nat.le_refl (count h))
    have hfuncs := fun name => functionIn_of_count_le name hp.2 (Nat.le_refl (count h))
    subst hs
    refine ⟨fun hnone => ?_, fun q hq => ?_, ?_, ?_, fun name => ?_, fun name => ?_⟩
    · cases b <;> cases hnone
    · have hpq : p = q := by cases b <;> exact Option.some.inj hq
      subst hpq
      rw [path_enter, path_cons _ hlt]
    · rw [boundary_enter]
      cases b <;> rfl
    · rw [depth_enter hp, ← hdepth]
      cases b <;> simp [Tree.childOf, houter]
    · refine Eq.trans ?_ (hvars name).symm
      cases b <;> rfl
    · refine Eq.trans ?_ (hfuncs name).symm
      cases b <;> rfl

/-- After a scope was entered, a scope works on the operands of one that there was before, or
it is the new boundary and has none. -/
private theorem stack_enter (r : Represents vars h t) {p : Nat} {b : Bool}
    (hp : Possible (.enter p b :: h)) {i : Nat} (hi : i < count h + 1) :
    let t' := (t.enter p b).2
    let h' := .enter p b :: h
    (∃ k, k < count h ∧ t'.stackOf? i = t.stackOf? k ∧ nearest h' i = nearest h k ∧
      t'.operands i = t.operands k ∧ History.operands h' i = History.operands h k) ∨
    t'.stackOf? i = some t.operandStacks.size ∧ nearest h' i = some (count h) ∧
      t'.operands i = [] ∧ History.operands h' i = [] := by
  intro t' h'
  have hlt : p < count h := hp.1
  have hgrown : ∀ k < t.operandStacks.size, t'.operandStacks[k]? = t.operandStacks[k]? := by
    intro k hk
    show (t.enter p b).2.operandStacks[k]? = _
    rw [Tree.operandStacks_enter]
    cases b with
    | true => rw [if_pos rfl, Array.getElem?_push_lt hk, Array.getElem?_eq_getElem hk]
    | false => rfl
  -- Where the stack is an old one, so are the operands.
  have of_stack : ∀ {k : Nat}, k < count h → t'.stackOf? i = t.stackOf? k →
      t'.operands i = t.operands k := by
    intro k hk hstack
    obtain ⟨s, hs⟩ := Tree.exists_get? (r.size ▸ hk : k < t.scopes.size)
    have hk' : t.stackOf? k = some s.stack := by rw [Tree.stackOf?, hs, Option.map_some]
    rw [Tree.operands_eq, Tree.operands_eq, hstack, hk', Option.bind_some, Option.bind_some,
      hgrown _ (r.valid.stack_lt hs)]
  rcases Nat.lt_succ_iff_lt_or_eq.mp hi with hold | rfl
  · have hstack : t'.stackOf? i = t.stackOf? i := by
      rw [Tree.stackOf?, Tree.get?_enter_of_lt t b (r.size ▸ hold), Tree.stackOf?]
    exact Or.inl ⟨i, hold, hstack, nearest_cons _ hp.2 hold, of_stack hold hstack,
      if_neg (Nat.ne_of_lt hold)⟩
  · have hframe : t'.get? (count h) = some (t.childOf p b) := r.size ▸ Tree.get?_enter_self t p b
    have hnearest := nearest_enter hp
    cases b with
    | true =>
        have hstack : t'.stackOf? (count h) = some t.operandStacks.size := by
          rw [Tree.stackOf?, hframe]
          rfl
        refine Or.inr ⟨hstack, hnearest, ?_, if_pos rfl⟩
        rw [Tree.operands_eq, hstack, Option.bind_some]
        show ((t.enter p true).2.operandStacks[t.operandStacks.size]?).getD [] = []
        rw [Tree.operandStacks_enter, if_pos rfl, Array.getElem?_push_size]
        rfl
    | false =>
        obtain ⟨outer, houter⟩ := Tree.exists_get? (r.size ▸ hlt : p < t.scopes.size)
        have hstack : t'.stackOf? (count h) = t.stackOf? p := by
          rw [Tree.stackOf?, hframe, Tree.stackOf?, houter]
          simp [Tree.childOf, houter]
        exact Or.inl ⟨p, hlt, hstack, hnearest, of_stack hlt hstack, if_pos rfl⟩

/-- Entering a scope keeps it so: the new scope is recorded with the right place. -/
theorem enter (r : Represents vars h t) {p : Nat} {b : Bool}
    (hp : Possible (.enter p b :: h)) : Represents vars (.enter p b :: h) (t.enter p b).2 where
  valid := r.valid.enter (r.size ▸ hp.1) b
  size := by rw [Tree.size_scopes_enter, r.size, count]
  frame hs := r.frame_enter hp hs
  share {i j} hi hj := by
    -- The number of the new stack is new, and so is that of the new boundary.
    have hstack : ∀ {k}, k < count h → t.stackOf? k ≠ some t.operandStacks.size := by
      intro k hk heq
      obtain ⟨s, hs, hlast⟩ := Option.map_eq_some_iff.mp heq
      exact Nat.ne_of_lt (r.valid.stack_lt hs) hlast
    have hnearest : ∀ {k}, k < count h → nearest h k ≠ some (count h) :=
      fun hk heq => Nat.lt_irrefl _ (lt_of_nearest hp.2 hk heq)
    rcases r.stack_enter hp hi with ⟨k, hk, hik, hnk, -⟩ | ⟨hik, hnk, -⟩ <;>
      rcases r.stack_enter hp hj with ⟨l, hl, hjl, hnl, -⟩ | ⟨hjl, hnl, -⟩ <;>
      rw [hik, hnk, hjl, hnl]
    · exact r.share hk hl
    · exact ⟨fun heq => absurd heq (hstack hk), fun heq => absurd heq (hnearest hk)⟩
    · exact ⟨fun heq => absurd heq.symm (hstack hl), fun heq => absurd heq.symm (hnearest hl)⟩
    · exact ⟨fun _ => rfl, fun _ => rfl⟩
  operands {i} hi := by
    rcases r.stack_enter hp hi with ⟨k, hk, -, -, htree, hsaid⟩ | ⟨-, -, htree, hsaid⟩
    · rw [htree, hsaid, r.operands hk]
    · rw [htree, hsaid]

/-- A step in a scope keeps what is said of stacks, if it does to the operands what the
history says. -/
private theorem of_step (r : Represents vars h t) {a : Action} {t' : Tree} {e : Nat}
    (hs : Tree.Step e t t') (hcount : count (a :: h) = count h)
    (hnearest : ∀ i, nearest (a :: h) i = nearest h i)
    (hframe : ∀ {i s}, t'.get? i = some s → Keeps vars (a :: h) i s)
    (hoperands : ∀ {i}, i < count h → t'.operands i = History.operands (a :: h) i) :
    Represents vars (a :: h) t' where
  valid := r.valid.step hs
  size := by rw [hs.size_scopes, r.size, hcount]
  frame := hframe
  share {i j} hi hj := by
    rw [hcount] at hi hj
    rw [hs.stackOf?_eq, hs.stackOf?_eq, hnearest, hnearest]
    exact r.share hi hj
  operands hi := hoperands (hcount ▸ hi)

/-- Setting a variable keeps it so. -/
theorem set (r : Represents vars h t) (e : Nat) (name : String) (v : Value) :
    Represents vars (.set e name v :: h) (t.set e name v) := by
  have hstep : Tree.Step e t (t.set e name v) := .set t name v
  refine r.of_step hstep rfl (fun _ => rfl) (fun {i s} hs => ?_) (fun {i} hi => ?_)
  · rw [Tree.get?_set] at hs
    split at hs
    · next hei =>
        obtain ⟨s₀, hs₀, rfl⟩ := Option.map_eq_some_iff.mp hs
        have k := r.frame hs₀
        refine ⟨k.root, k.parent, k.boundary, k.depth, fun other => ?_, k.funcs⟩
        rw [Table.find?_insert, k.vars]
        simp only [variableIn, hei, true_and]
    · next hei =>
        have k := r.frame hs
        refine ⟨k.root, k.parent, k.boundary, k.depth, fun other => ?_, k.funcs⟩
        rw [k.vars, variableIn, if_neg fun heq => hei heq.1]
  · rw [Tree.operands_eq, hstep.stackOf?_eq]
    exact (Tree.operands_eq t i).symm.trans (r.operands hi)

/-- Defining a function keeps it so. -/
theorem define (r : Represents vars h t) (e : Nat) (name : String) (f : Function) :
    Represents vars (.define e name f :: h) (t.define e name f) := by
  have hstep : Tree.Step e t (t.define e name f) := .define t name f
  refine r.of_step hstep rfl (fun _ => rfl) (fun {i s} hs => ?_) (fun {i} hi => ?_)
  · rw [Tree.get?_define] at hs
    split at hs
    · next hei =>
        obtain ⟨s₀, hs₀, rfl⟩ := Option.map_eq_some_iff.mp hs
        have k := r.frame hs₀
        refine ⟨k.root, k.parent, k.boundary, k.depth, k.vars, fun other => ?_⟩
        rw [Table.find?_insert, k.funcs]
        simp only [functionIn, hei, true_and]
    · next hei =>
        have k := r.frame hs
        refine ⟨k.root, k.parent, k.boundary, k.depth, k.vars, fun other => ?_⟩
        rw [k.funcs, functionIn, if_neg fun heq => hei heq.1]
  · rw [Tree.operands_eq, hstep.stackOf?_eq]
    exact (Tree.operands_eq t i).symm.trans (r.operands hi)

/-- A frame is kept as it is by what leaves the frames alone. -/
private theorem frame_of_get? (r : Represents vars h t) {t' : Tree}
    (hget : ∀ i, t'.get? i = t.get? i) {i : Nat} {s : Frame} (hs : t'.get? i = some s) :
    Keeps vars h i s :=
  r.frame (hget i ▸ hs)

/-- Pushing a value keeps it so: the scopes with the same nearest boundary have it, and no
others. -/
theorem push (r : Represents vars h t) {e : Nat} (he : e < count h) (v : Value) :
    Represents vars (.push e v :: h) (t.push e v) := by
  refine r.of_step (.push t v) rfl (fun _ => rfl) (fun {i s} hs => ?_) (fun {i} hi => ?_)
  · have k := r.frame_of_get? (fun i => Tree.get?_push t e i v) hs
    exact ⟨k.root, k.parent, k.boundary, k.depth, k.vars, k.funcs⟩
  · rw [Tree.operands_push_of_lt r.valid (r.size ▸ hi), History.operands, ← r.operands hi]
    exact if_congr (r.share he hi) rfl rfl

/-- Popping a value keeps it so in the same way. -/
theorem pop (r : Represents vars h t) {e : Nat} (he : e < count h) :
    Represents vars (.pop e :: h) (t.drop e) := by
  refine r.of_step (.drop t) rfl (fun _ => rfl) (fun {i s} hs => ?_) (fun {i} hi => ?_)
  · have k := r.frame_of_get? (fun i => Tree.get?_drop t e i) hs
    exact ⟨k.root, k.parent, k.boundary, k.depth, k.vars, k.funcs⟩
  · rw [Tree.operands_drop_of_lt r.valid (r.size ▸ hi), History.operands, ← r.operands hi]
    exact if_congr (r.share he hi) rfl rfl

/-- Each action keeps the tree as the history says. -/
theorem act (r : Represents vars h t) {a : Action} (hp : Possible (a :: h)) :
    Represents vars (a :: h) (t.act a) := by
  cases a with
  | enter p b => exact r.enter hp
  | set e name v => exact r.set e name v
  | define e name f => exact r.define e name f
  | push e v => exact r.push hp.1 v
  | pop e => exact r.pop hp.1

/-! ### What a scope sees -/

/-- The search for a variable goes out to the nearest boundary. -/
theorem lookup_eq (r : Represents vars h t) {i : Nat} (hi : i < count h) (name : String) :
    t.lookup i name = (visible h i).findSome? (variableIn vars name h) := by
  -- Parents have smaller numbers, so the induction is on the number of the scope.
  induction i using Nat.strongRecOn with
  | ind i ih =>
      obtain ⟨s, hs⟩ := Tree.exists_get? (r.size ▸ hi : i < t.scopes.size)
      have k := r.frame hs
      rw [Tree.lookup_eq r.valid hs, k.vars, k.boundary]
      cases hb : History.boundary h i with
      | true =>
          have hpath : ∃ rest, path h i = i :: rest := by
            cases hparent : s.parent with
            | none => exact ⟨[], (k.root hparent).1⟩
            | some p => exact ⟨path h p, k.parent p hparent⟩
          obtain ⟨rest, hrest⟩ := hpath
          rw [visible_of_boundary hb hrest, List.findSome?_singleton, if_pos rfl, Option.or_none]
      | false =>
          cases hparent : s.parent with
          | none => exact absurd ((k.root hparent).2.symm.trans hb) (by simp)
          | some p =>
              have hpi := r.valid.parent_lt hs hparent
              rw [visible_of_not_boundary hb (k.parent p hparent), List.findSome?_cons,
                ← ih p hpi (Nat.lt_trans hpi hi)]
              cases variableIn vars name h i <;> rfl

/-- The search for a function goes out to the root. -/
theorem resolve_eq (r : Represents vars h t) {i : Nat} (hi : i < count h) (name : String) :
    t.resolve i name = (path h i).findSome? (functionIn name h) := by
  induction i using Nat.strongRecOn with
  | ind i ih =>
      obtain ⟨s, hs⟩ := Tree.exists_get? (r.size ▸ hi : i < t.scopes.size)
      have k := r.frame hs
      rw [Tree.resolve_eq r.valid hs, k.funcs]
      cases hparent : s.parent with
      | none =>
          rw [(k.root hparent).1, List.findSome?_singleton]
          exact Option.or_none
      | some p =>
          have hpi := r.valid.parent_lt hs hparent
          rw [k.parent p hparent, List.findSome?_cons, ← ih p hpi (Nat.lt_trans hpi hi)]
          cases functionIn name h i <;> rfl

/-- The depth that is kept of a scope. -/
theorem depthOf_eq (r : Represents vars h t) {i : Nat} (hi : i < count h) :
    t.depthOf i = depth h i := by
  obtain ⟨s, hs⟩ := Tree.exists_get? (r.size ▸ hi : i < t.scopes.size)
  rw [Tree.depthOf, hs]
  exact (r.frame hs).depth

end Represents

/-- The tree that comes of a history keeps what the history says. -/
theorem represents_tree (vars : Table Value) (fresh : Nat) {h : History} (hp : Possible h) :
    Represents vars h (tree vars fresh h) := by
  induction h with
  | nil => exact .root vars fresh
  | cons a h ih => exact (ih hp.2).act hp

/-- **What scopes share and see.** Take any tree of scopes that comes about from a root with
any variables, by entering scopes, with or without a boundary, and by setting variables,
defining functions, pushing and popping in scopes that there are, in any order.

Every scope has a nearest boundary on its path to the root, the root being one. Its depth is
the number of boundaries on the path, itself included and the root left out. It sees a variable
as it was last set in the nearest scope that has it, up to and including its nearest boundary,
and none beyond. It sees a function as it was last defined in the nearest scope on the whole
path that has it. Two scopes share one operand stack exactly if they have the same nearest
boundary, and then what one pushes or pops is pushed or popped for the other. -/
theorem tree_represents (vars : Table Value) (fresh : Nat) (h : History) (hp : Possible h) :
    let t := tree vars fresh h
    t.scopes.size = count h ∧
    (∀ i, i < count h →
      (nearest h i).isSome ∧ t.depthOf i = depth h i ∧
      (∀ name, t.lookup i name = (visible h i).findSome? (variableIn vars name h)) ∧
      (∀ name, t.resolve i name = (path h i).findSome? (functionIn name h)) ∧
      t.operands i = operands h i) ∧
    ∀ i j, i < count h → j < count h →
      (t.stackOf? i = t.stackOf? j ↔ nearest h i = nearest h j) := by
  intro t
  have r : Represents vars h t := represents_tree vars fresh hp
  refine ⟨r.size, fun i hi => ?_, fun i j hi hj => r.share hi hj⟩
  exact ⟨isSome_nearest hp hi, r.depthOf_eq hi, r.lookup_eq hi, r.resolve_eq hi, r.operands hi⟩

/-- A scope below the root shadows a variable. A boundary is entered from it, and a scope from
the boundary. The innermost scope is one deep, sees the built-in operations and not the
variable, and shares its operands with the boundary and with no other scope. -/
theorem tree_represents_boundary :
    let h : History :=
      [.push 3 (.bool true), .push 1 (.bool false), .enter 2 false, .enter 1 true,
        .set 1 "x" (.text "inner"), .enter 0 false]
    let t := tree [("x", .text "outer")] 0 h
    Possible h ∧ t.scopes.size = 4 ∧ t.depthOf 3 = 1 ∧ t.lookup 0 "x" = some (.text "outer") ∧
      t.lookup 1 "x" = some (.text "inner") ∧ t.lookup 3 "x" = none ∧
      t.resolve 3 "add" = some (.native .add) ∧ t.stackOf? 3 = t.stackOf? 2 ∧
      t.stackOf? 3 ≠ t.stackOf? 1 ∧ t.operands 2 = [.bool true] ∧
      t.operands 0 = [.bool false] := by
  intro h t
  have hp : Possible h := by decide
  obtain ⟨hsize, hscope, hshare⟩ := tree_represents [("x", .text "outer")] 0 h hp
  obtain ⟨-, -, hlookup₀, -, hoperands₀⟩ := hscope 0 (by decide)
  obtain ⟨-, -, hlookup₁, -, -⟩ := hscope 1 (by decide)
  obtain ⟨-, -, -, -, hoperands₂⟩ := hscope 2 (by decide)
  obtain ⟨-, hdepth, hlookup₃, hresolve, -⟩ := hscope 3 (by decide)
  refine ⟨hp, hsize, hdepth, hlookup₀ "x", hlookup₁ "x", hlookup₃ "x", hresolve "add", ?_, ?_,
    hoperands₂, hoperands₀⟩
  · exact (hshare 3 2 (by decide) (by decide)).mpr rfl
  · exact fun heq => absurd ((hshare 3 1 (by decide) (by decide)).mp heq) (by decide)

end History

end TagScript.Scope
