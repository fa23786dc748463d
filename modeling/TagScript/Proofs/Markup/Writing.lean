import TagScript.Markup.Html

/-!
# `TagScript.Proofs.Markup.Writing`: the text of several trees

A tree is written behind what is written already, and does not look at it (`Html.write_eq`). So
the text of several trees is put together from the texts of its parts, as long as it can be
written at all (`Writable.append`).
-/

set_option autoImplicit false

namespace TagScript.Markup

/-- What is written of trees. -/
def markupOf (trees : List Html) : String :=
  (writeAll trees "").1

/-- Trees can be written to the end. -/
def Writable (trees : List Html) : Prop :=
  (writeAll trees "").2 = none

mutual

/-- A tree is written behind anything as it is written alone. -/
theorem Html.write_eq : (tree : Html) → (out : String) →
    tree.write out = (out ++ (tree.write "").1, (tree.write "").2)
  | .text s, out => by simp only [Html.write, String.empty_append]
  | .comment, out => by simp only [Html.write, String.append_empty]
  | .element tag space attributes children, out => by
      simp only [Html.write]
      by_cases hvoid : voidElements.contains tag = true
      · simp only [hvoid, if_true]
        split <;> simp only [String.append_assoc, String.empty_append]
      · simp only [hvoid, Bool.false_eq_true, if_false]
        rw [writeChildren_eq _ children (out ++ _ ++ _ ++ _),
          writeChildren_eq _ children ("" ++ _ ++ _ ++ _)]
        rcases writeChildren _ children "" with ⟨content, _ | _ | _⟩
        · dsimp only
          split <;> simp only [String.append_assoc, String.empty_append]
        · simp only [String.append_assoc, String.empty_append]
        · simp only [String.append_assoc, String.empty_append]

/-- Children are written behind anything as they are written alone. -/
theorem writeChildren_eq (literal : Bool) : (trees : List Html) → (out : String) →
    writeChildren literal trees out
      = (out ++ (writeChildren literal trees "").1, (writeChildren literal trees "").2)
  | [], out => by simp only [writeChildren, String.append_empty]
  | .text s :: rest, out => by
      simp only [writeChildren]
      rw [writeChildren_eq literal rest (out ++ _), writeChildren_eq literal rest ("" ++ _)]
      simp only [String.append_assoc, String.empty_append]
  | .comment :: rest, out => by
      simp only [writeChildren, Html.write]
      exact writeChildren_eq literal rest out
  | .element tag space attributes children :: rest, out => by
      simp only [writeChildren]
      rw [Html.write_eq (.element tag space attributes children) out]
      rcases (Html.element tag space attributes children).write "" with ⟨written, _ | _ | _⟩
      · dsimp only
        rw [writeChildren_eq literal rest (out ++ written), writeChildren_eq literal rest written]
        simp only [String.append_assoc]
      · rfl
      · rfl

end

/-- Trees are written behind anything as they are written alone. -/
theorem writeAll_eq (trees : List Html) (out : String) :
    writeAll trees out = (out ++ markupOf trees, (writeAll trees "").2) := by
  unfold markupOf
  induction trees generalizing out with
  | nil => simp only [writeAll, String.append_empty]
  | cons tree rest ih =>
      simp only [writeAll]
      rw [tree.write_eq out]
      rcases tree.write "" with ⟨written, _ | _ | tag⟩
      · dsimp only
        rw [ih (out ++ written), ih written, String.append_assoc]
      · dsimp only
        rw [ih (out ++ written), ih written, String.append_assoc]
      · rfl

/-- Trees are written one after another up to the first that cannot be. -/
theorem writeAll_append (trees rest : List Html) (out : String) :
    writeAll (trees ++ rest) out = match writeAll trees out with
      | (written, none) => writeAll rest written
      | stopped => stopped := by
  induction trees generalizing out with
  | nil => rfl
  | cons tree trees ih =>
      simp only [writeAll, List.cons_append]
      rcases tree.write out with ⟨written, _ | _ | tag⟩
      · exact ih written
      · exact ih written
      · rfl

/-- Trees can be written if their parts can, and their text is the texts of the parts. -/
theorem Writable.append {trees rest : List Html} (h : Writable (trees ++ rest)) :
    Writable trees ∧ Writable rest ∧
      markupOf (trees ++ rest) = markupOf trees ++ markupOf rest := by
  unfold Writable markupOf at *
  rw [writeAll_append] at h ⊢
  rcases hwrite : writeAll trees "" with ⟨written, _ | tag⟩
  · rw [hwrite] at h
    dsimp only at h ⊢
    rw [writeAll_eq rest written] at h ⊢
    exact ⟨rfl, h, rfl⟩
  · rw [hwrite] at h
    cases h

end TagScript.Markup
