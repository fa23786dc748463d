import TagScript.Markup.Render
import TagScript.Proofs.Eval.Confinement
import TagScript.Proofs.Scope.History
import TagScript.Proofs.Scope.Table
import TagScript.Proofs.Text.Order

/-!
# `TagScript.Proofs.Scope.Listing`: the names of the functions that a scope sees

`Tree.functionNames` merges the functions of a scope and of all scopes around it into one table,
and lists the names of the table. `Tree.resolve` searches the same scopes for one name. The two
agree in every tree (`mem_functionNames_iff`), for they walk the same way out with the same fuel,
and the names are listed in increasing order, for a table keeps them so
(`Table.pairwise_names_insert`).

The built-in operations are among the functions of the root, and every scope is in the root
(`Reachable.outward_root`). So their names resolve from every scope of a reachable tree, though not
always to the operation. What is found is the nearest function on the way out to the root
(`Outward.exists_nearest`), and this can be one that was defined there (`Reachable.resolve_native`).
In a scope inside, such a function hides the operation. In the root it takes its place, and the
operation is lost (`World.Reached.define_loses_native`).

`World.Reached` are the states that come about from a new environment by actions in its scopes
and by evaluations of nodes in them, and so by renderings of programs (`World.Reached.render`).
Their trees are reachable (`World.Reached.reachable`).
-/

set_option autoImplicit false

namespace TagScript

open Scope Text

namespace Scope.Tree

variable {t t' : Tree} {e i : Nat} {name : String}

/-! ### Listing and resolving -/

/-- What is entered of a scope into a table are its names. -/
private theorem mem_names_foldl (funcs : Table Function) (seen : Table Unit) (name : String) :
    name ∈ (funcs.foldl (fun acc f => acc.insert f.1 ()) seen).names
      ↔ name ∈ seen.names ∨ name ∈ funcs.names := by
  induction funcs generalizing seen with
  | nil => simp [Table.names]
  | cons f rest ih =>
      have hnames : Table.names (f :: rest) = f.1 :: Table.names rest := rfl
      rw [List.foldl_cons, ih, Table.mem_names_insert, hnames, List.mem_cons, or_assoc,
        or_left_comm]

/-- Adding names to a list keeps it in order and without repetitions. -/
private theorem pairwise_names_foldl (funcs : Table Function) {seen : Table Unit}
    (h : seen.names.Pairwise (· < ·)) :
    (funcs.foldl (fun acc f => acc.insert f.1 ()) seen).names.Pairwise (· < ·) := by
  induction funcs generalizing seen with
  | nil => exact h
  | cons f rest ih => exact ih (Table.pairwise_names_insert h f.1 ())

/-- On the way out through the scopes a table gets the names that are found on the same way. -/
theorem mem_functionsWithin_iff (t : Tree) (name : String) (fuel i : Nat) (seen : Table Unit) :
    name ∈ (t.functionsWithin fuel i seen).names
      ↔ name ∈ seen.names ∨ (t.resolveWithin name fuel i).isSome := by
  induction fuel generalizing i seen with
  | zero => simp [functionsWithin, resolveWithin]
  | succ fuel ih =>
      simp only [functionsWithin, resolveWithin]
      cases t.get? i with
      | none => simp
      | some s =>
          have hown : (s.funcs.find? name).isSome ↔ name ∈ s.funcs.names :=
            Table.isSome_find?_iff
          cases hf : s.funcs.find? name with
          | some f =>
              -- It is found in the scope itself, and the search ends there. The listing goes on,
              -- and loses nothing.
              have hmem : name ∈ s.funcs.names := hown.mp (by rw [hf]; rfl)
              cases hp : s.parent with
              | none => simp [hp, hf, mem_names_foldl, hmem]
              | some p => simp [hp, hf, ih, mem_names_foldl, hmem]
          | none =>
              have hmem : name ∉ s.funcs.names := fun h => by simpa [hf] using hown.mpr h
              cases hp : s.parent with
              | none => simp [hp, hf, mem_names_foldl, hmem]
              | some p => simp [hp, hf, ih, mem_names_foldl, hmem]

/-- So the names that are listed are in order, and none is listed twice. -/
theorem pairwise_functionsWithin (t : Tree) (fuel i : Nat) {seen : Table Unit}
    (h : seen.names.Pairwise (· < ·)) :
    (t.functionsWithin fuel i seen).names.Pairwise (· < ·) := by
  induction fuel generalizing i seen with
  | zero => exact h
  | succ fuel ih =>
      simp only [functionsWithin]
      cases t.get? i with
      | none => exact h
      | some s =>
          have hown := pairwise_names_foldl s.funcs h
          cases hp : s.parent with
          | none => simpa only [hp] using hown
          | some p => simpa only [hp] using ih p hown

/-- A scope lists the names for which it sees a function. -/
theorem mem_functionNames_iff (t : Tree) (i : Nat) (name : String) :
    name ∈ t.functionNames i ↔ (t.resolve i name).isSome := by
  have h := mem_functionsWithin_iff t name (i + 1) i []
  exact h.trans (or_iff_right List.not_mem_nil)

/-- The names are listed in increasing order. -/
theorem pairwise_functionNames (t : Tree) (i : Nat) : (t.functionNames i).Pairwise (· < ·) :=
  pairwise_functionsWithin t (i + 1) i List.Pairwise.nil

/-! ### The scopes that a name is looked for in -/

/-- Scope `j` is scope `i` or one around it. -/
inductive Outward (t : Tree) : Nat → Nat → Prop where
  | self (i : Nat) : Outward t i i
  | parent {i p j : Nat} {s : Frame} (hs : t.get? i = some s) (hp : s.parent = some p)
      (h : Outward t p j) : Outward t i j

/-- The function that a scope itself has under a name. -/
def own? (t : Tree) (i : Nat) (name : String) : Option Function :=
  (t.get? i).bind fun s => s.funcs.find? name

/-- A function was defined in a scope under a name. What a root has from its beginning was not. -/
def Defined (t : Tree) (i : Nat) (name : String) (f : Function) : Prop :=
  t.own? i name = some f ∧ ¬ (i = 0 ∧ prelude.find? name = some f)

/-- A step leaves every scope where it is, and the scopes around it too. -/
theorem Outward.step {j : Nat} (h : t.Outward i j) (hs : Step e t t') : t'.Outward i j := by
  induction h with
  | self i => exact .self i
  | @parent i p j s hget hp _ ih =>
      have hbare := hs.bare i
      rw [hget, Option.map_some] at hbare
      obtain ⟨s', hs', hsame⟩ := Option.map_eq_some_iff.mp hbare
      exact .parent hs' ((congrArg Frame.parent hsame).trans hp) ih

/-- A new scope leaves the others where they are. -/
theorem Outward.enter {j : Nat} (h : t.Outward i j) (e : Nat) (boundary : Bool) :
    (t.enter e boundary).2.Outward i j := by
  induction h with
  | self i => exact .self i
  | parent hget hp _ ih =>
      exact .parent ((get?_enter_of_lt t boundary (lt_of_get? hget)).trans hget) hp ih

/-- Around the root there is no scope. -/
theorem Outward.eq_root (hv : t.Valid) {j : Nat} (h : t.Outward 0 j) : j = 0 := by
  cases h with
  | self => rfl
  | parent hs hp _ => exact absurd (hv.parent_lt hs hp) (Nat.not_lt_zero _)

/-- Every scope of a reachable tree is in the root. -/
theorem Reachable.outward_root (h : t.Reachable) (hi : i < t.scopes.size) : t.Outward i 0 := by
  induction h generalizing i with
  | root vars fresh =>
      obtain rfl : i = 0 := Nat.lt_one_iff.mp hi
      exact .self 0
  | step _ hs ih => exact (ih (hs.size_scopes ▸ hi)).step hs
  | @enter t e _ he boundary ih =>
      rw [size_scopes_enter] at hi
      rcases Nat.lt_succ_iff_lt_or_eq.mp hi with hold | rfl
      · exact (ih hold).enter e boundary
      · have hparent : (t.childOf e boundary).parent = some e := by cases boundary <;> rfl
        exact .parent (get?_enter_self t e boundary) hparent ((ih he).enter e boundary)

/-- If one of the scopes that a name is looked for in has a function of this name, the function
that is found is that of the nearest of them. -/
theorem Outward.exists_nearest (hv : t.Valid) {j : Nat} (h : t.Outward i j)
    (hj : (t.own? j name).isSome) :
    ∃ k f, t.Outward i k ∧ t.own? k name = some f ∧ t.resolve i name = some f ∧
      ∀ l, t.Outward i l → (t.own? l name).isSome → t.Outward k l := by
  -- The search goes outwards from `i`. It ends there, or goes on as one from the parent.
  have here : ∀ {i : Nat} {f : Function}, t.own? i name = some f → t.resolve i name = some f := by
    intro i f hf
    obtain ⟨s, hs, hown⟩ := Option.bind_eq_some_iff.mp hf
    rw [resolve_eq hv hs, hown, Option.some_or]
  induction h with
  | self i =>
      obtain ⟨f, hf⟩ := Option.isSome_iff_exists.mp hj
      exact ⟨i, f, .self i, hf, here hf, fun _ hl _ => hl⟩
  | @parent i p j s hs hp _ ih =>
      cases hown : t.own? i name with
      | some f => exact ⟨i, f, .self i, hown, here hown, fun _ hl _ => hl⟩
      | none =>
          obtain ⟨k, f, hk, hf, hfound, hnearest⟩ := ih hj
          have hnone : s.funcs.find? name = none := by rwa [own?, hs] at hown
          refine ⟨k, f, .parent hs hp hk, hf, ?_, fun l hl hl' => ?_⟩
          · rw [resolve_eq hv hs, hnone, Option.none_or, hp, Option.bind_some, hfound]
          · cases hl with
            | self => simp [hown] at hl'
            | parent hs' hp' hl =>
                obtain rfl := Option.some.inj (hs.symm.trans hs')
                obtain rfl := Option.some.inj (hp.symm.trans hp')
                exact hnearest l hl hl'

/-! ### The built-in operations -/

/-- The root of a new tree has every built-in operation under its name. -/
theorem find?_prelude_name (n : Native) : prelude.find? n.name = some (.native n) := by
  cases n <;> rfl

/-- A step takes no function away, though it may put another one in its place. -/
theorem Step.isSome_own? (h : Step e t t') (hname : (t.own? i name).isSome) :
    (t'.own? i name).isSome := by
  cases h with
  | set other v =>
      rw [own?, get?_set]
      split
      · simpa [own?, Option.bind_map, Function.comp_def] using hname
      · exact hname
  | define other f =>
      rw [own?, get?_define]
      split
      · -- The scope has its functions still, and the new one under its name.
        obtain ⟨s, hs⟩ : ∃ s, t.get? i = some s := by
          cases hs : t.get? i with
          | none => simp [own?, hs] at hname
          | some s => exact ⟨s, rfl⟩
        rw [own?, hs, Option.bind_some] at hname
        rw [hs, Option.map_some, Option.bind_some, Table.find?_insert]
        split
        · rfl
        · exact hname
      · exact hname
  | push v => rwa [own?, get?_push]
  | drop => rwa [own?, get?_drop]
  | renew fresh hf => exact hname

/-- The root of a reachable tree has a function under the name of every built-in operation. -/
theorem Reachable.isSome_own?_root (h : t.Reachable) (n : Native) :
    (t.own? 0 n.name).isSome := by
  induction h with
  | root vars fresh =>
      have hroot : (Tree.root vars fresh).own? 0 n.name = prelude.find? n.name := rfl
      rw [hroot, find?_prelude_name]
      rfl
  | step _ hs ih => exact hs.isSome_own? ih
  | @enter t e _ he boundary ih =>
      rwa [own?, get?_enter_of_lt t boundary (Nat.zero_lt_of_lt he)]

/-- The name of a built-in operation resolves to the operation, unless functions were defined under
it in the scope or around it. Then it resolves to the nearest of these. -/
theorem Reachable.resolve_native (h : t.Reachable) (hi : i < t.scopes.size) (n : Native) :
    t.resolve i n.name = some (.native n) ∧
        (∀ j f, t.Outward i j → ¬ t.Defined j n.name f) ∨
      ∃ j f, t.Outward i j ∧ t.Defined j n.name f ∧ t.resolve i n.name = some f ∧
        ∀ k g, t.Outward i k → t.Defined k n.name g → t.Outward j k := by
  obtain ⟨j, f, hj, hf, hfound, hnearest⟩ :=
    (h.outward_root hi).exists_nearest h.valid (h.isSome_own?_root n)
  have defined_isSome : ∀ {k g}, t.Defined k n.name g → (t.own? k n.name).isSome := fun hg =>
    Option.isSome_iff_exists.mpr ⟨_, hg.1⟩
  by_cases hbuiltIn : j = 0 ∧ prelude.find? n.name = some f
  · -- It is the root's own from the beginning, and nothing is nearer.
    obtain ⟨rfl, hprelude⟩ := hbuiltIn
    obtain rfl : f = .native n := Option.some.inj (hprelude.symm.trans (find?_prelude_name n))
    refine .inl ⟨hfound, fun k g hk hg => ?_⟩
    obtain rfl : k = 0 := (hnearest k hk (defined_isSome hg)).eq_root h.valid
    obtain rfl : g = .native n := Option.some.inj (hg.1.symm.trans hf)
    exact hg.2 ⟨rfl, hprelude⟩
  · exact .inr ⟨j, f, hj, ⟨hf, hbuiltIn⟩, hfound, fun k g hk hg =>
      hnearest k hk (defined_isSome hg)⟩

end Scope.Tree

/-! ### The states that come about -/

variable {σ : Type}

/-- The states that come about from a new environment: by actions in the scopes that there
are, and by evaluations of nodes in them. The sink may change in any way in between. -/
inductive World.Reached : World σ → Prop where
  | initial (globals : List (String × Value)) (fresh : Nat) (s : σ) :
      Reached (World.initial globals fresh s)
  | act {w : World σ} (h : Reached w) (a : Action) (ha : a.scope < w.tree.scopes.size) :
      Reached { w with tree := w.tree.act a }
  | evaluate {w : World σ} (h : Reached w) (cfg : Setting σ) {e : Nat}
      (he : e < w.tree.scopes.size) (n : Node) : Reached ((eval cfg e n).run.run w).2
  | output {w : World σ} (h : Reached w) (s : σ) : Reached { w with sink := s }

namespace World.Reached

variable {w : World σ} {i : Nat}

/-- An evaluation is confined to its scope. -/
private theorem confined_eval (cfg : Setting σ) (e : Nat) (n : Node) (w : World σ) :
    World.Confined e w ((eval cfg e n).run.run w).2 := by
  have L := confinement_lawful cfg
  exact (L.evalNode (L.callUser _) e n w).state

/-- Actions and evaluations make a tree out of a root by steps and by entering scopes. -/
theorem reachable (h : w.Reached) : w.tree.Reachable := by
  induction h with
  | initial globals fresh s => exact .root _ _
  | @act w _ a ha ih =>
      cases a with
      | enter e boundary => exact ih.enter ha boundary
      | set e name v => exact ih.step (.set w.tree name v)
      | define e name f => exact ih.step (.define w.tree name f)
      | push e v => exact ih.step (.push w.tree v)
      | pop e => exact ih.step (.drop w.tree)
  | @evaluate w _ cfg e he n ih => exact (confined_eval cfg e n w ih he).1
  | output _ s ih => exact ih

/-- An evaluation takes no scope away. -/
private theorem size_evaluate (h : w.Reached) (cfg : Setting σ) (he : i < w.tree.scopes.size)
    (n : Node) : w.tree.scopes.size ≤ ((eval cfg i n).run.run w).2.tree.scopes.size :=
  (confined_eval cfg i n w h.reachable he).2.scopes_le

/-- A rendering of a program comes to a state of the same kind, whether it ends or stops with
a fault. -/
theorem render (h : w.Reached) (cfg : Setting σ) (hi : i < w.tree.scopes.size)
    (parent : NodeRef) (nodes : List Node) :
    ((TagScript.render cfg i parent nodes).run.run w).2.Reached := by
  -- After each node the induction goes on from the state that its evaluation comes to.
  induction nodes generalizing w with
  | nil => exact h
  | cons n rest ih =>
      have hn := h.evaluate cfg hi n
      have hsize := h.size_evaluate cfg hi n
      rw [TagScript.render, Run.run_bind]
      rcases hrun : (eval cfg i n).run.run w with ⟨f | r, w'⟩
      · rw [hrun] at hn
        exact hn
      · rw [hrun] at hn hsize
        exact ih (hn.output _) (Nat.lt_of_lt_of_le hi hsize)

/-- **Listing and resolving agree.** Take any scope of any state that has come about from a new
environment by entering scopes and boundaries, by defining functions, and by evaluating
programs. The names that the scope lists are in increasing order of their bytes, so none is
listed twice. A name is listed if and only if a function is found for it from the scope. The
name of every built-in operation is listed, and what is found for it is the operation itself,
if no function was defined under this name in the scope or around it, and the nearest such
function otherwise. The root is around every scope. -/
theorem functionNames_listing (h : w.Reached) (hi : i < w.tree.scopes.size) :
    ((w.tree.functionNames i).map octets).Pairwise (· < ·) ∧
    (∀ name, name ∈ w.tree.functionNames i ↔ (w.tree.resolve i name).isSome) ∧
    w.tree.Outward i 0 ∧
    ∀ n : Native, n.name ∈ w.tree.functionNames i ∧
      (w.tree.resolve i n.name = some (.native n) ∧
          (∀ j f, w.tree.Outward i j → ¬ w.tree.Defined j n.name f) ∨
        ∃ j f, w.tree.Outward i j ∧ w.tree.Defined j n.name f ∧
          w.tree.resolve i n.name = some f ∧
          ∀ k g, w.tree.Outward i k → w.tree.Defined k n.name g → w.tree.Outward j k) := by
  refine ⟨?_, w.tree.mem_functionNames_iff i, h.reachable.outward_root hi, fun n => ?_⟩
  · exact List.pairwise_map.mpr ((w.tree.pairwise_functionNames i).imp octets_lt_octets)
  · have hn := h.reachable.resolve_native hi n
    refine ⟨(w.tree.mem_functionNames_iff i n.name).mpr ?_, hn⟩
    rcases hn with ⟨hfound, -⟩ | ⟨_, _, -, -, hfound, -⟩
    · rw [hfound, Option.isSome_some]
    · rw [hfound, Option.isSome_some]

/-- A template puts a function in place of the addition, behind a boundary. The scope there
lists the name once, with those of the other operations. The subtraction is found for its own
name. -/
theorem functionNames_listing_define :
    let cfg : Setting Unit := ⟨.discard, 10, false⟩
    let w := (World.initial [] 0 ()).tree.act (.enter 0 true)
    let w' := ((eval cfg 1 (.define (some (.text "add")) [] [])).run.run ⟨w, #[], (), 0⟩).2
    w'.Reached ∧ 1 < w'.tree.scopes.size ∧
    w'.tree.functionNames 1 = ["add", "and", "div", "eq", "ge", "gt", "le", "lt", "mul", "ne",
      "or", "pop", "push", "range", "rem", "set", "sub"] ∧
    ((w'.tree.functionNames 1).map octets).Pairwise (· < ·) ∧
    w'.tree.Defined 1 Native.add.name (.user ⟨"add", [], []⟩) ∧
    (∃ j f, w'.tree.Outward 1 j ∧ w'.tree.Defined j Native.add.name f ∧
      w'.tree.resolve 1 Native.add.name = some f) ∧
    w'.tree.resolve 1 Native.sub.name = some (.native .sub) := by
  intro cfg w w'
  have hentered : World.Reached ⟨w, #[], (), 0⟩ :=
    .act (.initial [] 0 ()) (.enter 0 true) Nat.zero_lt_one
  have hreached : w'.Reached := hentered.evaluate cfg Nat.one_lt_two _
  have hsize : 1 < w'.tree.scopes.size := Nat.one_lt_two
  have hdefined : w'.tree.Defined 1 Native.add.name (.user ⟨"add", [], []⟩) :=
    ⟨rfl, fun h => Nat.one_ne_zero h.1⟩
  obtain ⟨hordered, -, houtward, hnative⟩ := functionNames_listing hreached hsize
  refine ⟨hreached, hsize, by decide +kernel, hordered, hdefined, ?_, rfl⟩
  rcases (hnative .add).2 with ⟨-, hnone⟩ | ⟨j, f, hj, hf, hfound, -⟩
  · exact absurd hdefined (hnone 1 _ (.self 1))
  · exact ⟨j, f, hj, hf, hfound⟩

/-- A template puts a function in place of the addition in the root. The root is the only scope,
and from it no name resolves to the addition any more. -/
theorem define_loses_native :
    let cfg : Setting Unit := ⟨.discard, 10, false⟩
    let w := ((eval cfg 0 (.define (some (.text "add")) [] [])).run.run (World.initial [] 0 ())).2
    w.Reached ∧ w.tree.scopes.size = 1 ∧
      w.tree.resolve 0 Native.add.name = some (.user ⟨"add", [], []⟩) ∧
      ∀ name, w.tree.resolve 0 name ≠ some (.native .add) := by
  intro cfg w
  have hreached : w.Reached := (World.Reached.initial [] 0 ()).evaluate cfg Nat.zero_lt_one _
  refine ⟨hreached, rfl, rfl, fun name hname => ?_⟩
  -- The addition is not among the functions of the root, so it is not found under any name.
  obtain ⟨s, hs, hparent, hnone⟩ : ∃ s, w.tree.get? 0 = some s ∧ s.parent = none ∧
      s.funcs.all (fun f => !(f.2 matches .native .add)) = true :=
    ⟨_, rfl, rfl, by decide +kernel⟩
  rw [Tree.resolve_eq hreached.reachable.valid hs, hparent, Option.bind_none, Option.or_none]
    at hname
  exact Bool.false_ne_true (List.all_eq_true.mp hnone _ (Table.mem_of_find? hname))

end World.Reached

end TagScript
