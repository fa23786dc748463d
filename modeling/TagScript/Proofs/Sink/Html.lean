import TagScript.Markup.Forest
import TagScript.Proofs.Sink.Recording

/-!
# `TagScript.Proofs.Sink.Html`: the markup sink under the protocol

The markup sink numbers its nodes in the order in which it makes them, so it never makes a
node twice, and never one that it had before (`Takes.fresh_html`). A node gets a parent only
by being appended (`Takes.parentOf_html`). It does not append a node that has a parent
already. Requests that keep to the protocol never come to that
(`Takes.parentOf_eq_none_html`).
-/

set_option autoImplicit false

namespace TagScript

open Markup SinkEvent

namespace Markup.Forest

variable (f : Forest) (i j c : Nat)

/-- A node that is created gives no node a parent. -/
theorem parentOf_create (content : Content) : (f.create content).2.parentOf c = f.parentOf c := by
  simp only [parentOf, create, Array.getElem?_push]
  -- The new node has no parent, and its number had none before.
  split
  · next h => rw [h, Array.getElem?_eq_none (Nat.le_refl _)]; rfl
  · rfl

/-- An attribute that is set gives no node a parent. -/
theorem parentOf_setAttribute (name value : String) :
    (f.setAttribute i name value).parentOf c = f.parentOf c := by
  simp only [parentOf, setAttribute, Array.getElem?_modify]
  split
  · rcases f.slots[c]? with _ | s
    · rfl
    · dsimp only [Option.map_some, Option.bind_some]
      split <;> rfl
  · rfl

/-- Setting an attribute adds no node. -/
theorem size_setAttribute (name value : String) : (f.setAttribute i name value).size = f.size :=
  Array.size_modify

/-- Appending gives a parent to no node but the child. -/
theorem parentOf_append (h : j ≠ c) : (f.append i j).parentOf c = f.parentOf c := by
  unfold append
  split
  · simp only [parentOf, link, Array.getElem?_modify, if_neg h]
    split
    · cases f.slots[c]? <;> rfl
    · rfl
  · rfl

/-- Creating a node adds one. -/
theorem size_lt_create (content : Content) : f.size < (f.create content).2.size := by
  show f.slots.size < (f.slots.push _).size
  rw [Array.size_push]
  exact Nat.lt_succ_self _

/-- Appending adds no node. -/
theorem size_append : (f.append i j).size = f.size := by
  unfold append
  split
  · simp [size, link]
  · rfl

/-- A number that is not in use has no parent. -/
theorem parentOf_of_size_le (h : f.size ≤ c) : f.parentOf c = none := by
  rw [parentOf, Array.getElem?_eq_none h]
  rfl

end Markup.Forest

namespace Sink

variable {f f' : Forest} {events : List SinkEvent} {n : NodeRef} {c : Nat}

/-- A request to set an attribute adds no node, whichever it is for. -/
theorem size_setAttribute_html (node : NodeRef) (name value : String) (f : Forest) :
    (Sink.html.setAttribute node name value f).size = f.size := by
  cases node with
  | none => rfl
  | some i => exact f.size_setAttribute i name value

/-- Such a request gives no node a parent. -/
theorem parentOf_setAttribute_html (node : NodeRef) (name value : String) (f : Forest) (c : Nat) :
    (Sink.html.setAttribute node name value f).parentOf c = f.parentOf c := by
  cases node with
  | none => rfl
  | some i => exact f.parentOf_setAttribute i c name value

/-- A request to append adds no node. -/
theorem size_append_html (parent child : NodeRef) (f : Forest) :
    (Sink.html.append parent child f).size = f.size := by
  cases parent with
  | none => rfl
  | some p =>
      cases child with
      | none => rfl
      | some d => exact f.size_append p d

/-- It gives a parent to no node but the child. -/
theorem parentOf_append_html (parent : NodeRef) {child : NodeRef} (f : Forest) {c : Nat}
    (h : child ≠ some c) : (Sink.html.append parent child f).parentOf c = f.parentOf c := by
  cases parent with
  | none => rfl
  | some p =>
      cases child with
      | none => rfl
      | some d => exact f.parentOf_append p d c fun hd => h (congrArg some hd)

/-- Every node that is made is new to the store. -/
theorem Takes.made_html (h : Sink.html.Takes f events f') (hn : n ∈ made events) :
    ∃ i, n = some i ∧ f.size ≤ i := by
  induction h with
  | nil f => cases hn
  | @element f _ _ tag _ ih =>
      rcases List.mem_cons.mp hn with rfl | hn
      · exact ⟨f.size, rfl, Nat.le_refl _⟩
      · obtain ⟨i, hi, hle⟩ := ih hn
        exact ⟨i, hi, Nat.le_of_lt (Nat.lt_of_lt_of_le (f.size_lt_create _) hle)⟩
  | @text f _ _ t _ ih =>
      rcases List.mem_cons.mp hn with rfl | hn
      · exact ⟨f.size, rfl, Nat.le_refl _⟩
      · obtain ⟨i, hi, hle⟩ := ih hn
        exact ⟨i, hi, Nat.le_of_lt (Nat.lt_of_lt_of_le (f.size_lt_create _) hle)⟩
  | setAttribute node name value _ ih => exact size_setAttribute_html node name value _ ▸ ih hn
  | append parent child _ ih => exact size_append_html parent child _ ▸ ih hn

/-- The number of a node that is made is not made again. -/
private theorem Takes.notMem_made_html {content : Content}
    (h : Sink.html.Takes (f.create content).2 events f') : some f.size ∉ made events := by
  intro hn
  obtain ⟨i, hi, hle⟩ := h.made_html hn
  cases hi
  exact Nat.not_le_of_lt (f.size_lt_create content) hle

/-- No node is made twice. -/
theorem Takes.fresh_html (h : Sink.html.Takes f events f') : Fresh events := by
  refine ⟨?_, fun hn => ?_⟩
  · induction h with
    | nil f => exact .nil
    | element tag h ih => exact List.nodup_cons.mpr ⟨h.notMem_made_html, ih⟩
    | text t h ih => exact List.nodup_cons.mpr ⟨h.notMem_made_html, ih⟩
    | setAttribute node name value _ ih => exact ih
    | append parent child _ ih => exact ih
  · obtain ⟨i, hi, -⟩ := h.made_html hn
    cases hi

/-- A node that is not appended keeps the parent that it has. -/
theorem Takes.parentOf_html (h : Sink.html.Takes f events f') (hc : some c ∉ children events) :
    f'.parentOf c = f.parentOf c := by
  induction h with
  | nil f => rfl
  | element tag _ ih => exact (ih hc).trans (Forest.parentOf_create _ c _)
  | text t _ ih => exact (ih hc).trans (Forest.parentOf_create _ c _)
  | setAttribute node name value _ ih =>
      exact (ih hc).trans (parentOf_setAttribute_html node name value _ c)
  | append parent child _ ih =>
      obtain ⟨hne, hrest⟩ := not_or.mp (mt List.mem_cons.mpr hc)
      exact (ih hrest).trans (parentOf_append_html parent _ fun heq => hne heq.symm)

/-- A child that may be appended has no parent yet. -/
theorem Takes.parentOf_eq_none_html {roots : List NodeRef} {parent : NodeRef}
    (h : Sink.html.Takes f events f') (hallowed : Allowed roots events (.append parent (some c))) :
    f'.parentOf c = none := by
  obtain ⟨hmade, hfree, -⟩ := hallowed
  obtain ⟨i, hi, hle⟩ := h.made_html hmade
  cases hi
  rw [h.parentOf_html hfree, f.parentOf_of_size_le c hle]

end Sink

end TagScript
