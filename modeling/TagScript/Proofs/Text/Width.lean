import TagScript.Text.Lines
import TagScript.Text.Width

/-!
# `TagScript.Proofs.Text.Width`: the columns of texts side by side

The columns of two texts next to each other are not the sum of theirs: characters at the seam may
form one cluster, and an escape sequence that is begun in the first text takes its end from the
second. With two spaces between the texts they are no more than that (`width_append_gap_le`). A sign
that belongs to what stands behind it takes the first of the spaces into its cluster, but never the
second one, and an escape sequence takes characters from the second text that it would not count.
-/

set_option autoImplicit false

namespace TagScript.Text

variable {c : Char} {cs rest zs : List Char}

/-! ### One character -/

/-- An ASCII character has columns of its own, unless it begins an escape sequence. -/
theorem width_ascii (hc : c.toNat < 0x80) (hsequence : c = '\x1b' → rest.head? ≠ some '[') :
    width (c :: rest) = asciiWidth c + width rest := by
  rw [width.eq_def]
  split
  · next heq => cases heq
  · next heq =>
    cases heq
    exact absurd rfl (hsequence rfl)
  · next heq =>
    cases heq
    rw [if_pos hc]

/-- An escape sequence has no columns. -/
theorem width_sequence (rest : List Char) :
    width ('\x1b' :: '[' :: rest) = width (afterSequence rest) := by
  rw [width]

/-- Any other character has the columns of the cluster that it begins. -/
theorem width_cluster (hc : ¬c.toNat < 0x80) :
    width (c :: rest) = clusterWidth c (Bond.of c) rest +
      width (afterCluster (Bond.of c) (Bond.of c == .flagLetter) (Bond.of c == .pictograph)
        rest) := by
  rw [width.eq_def]
  split
  · next heq => cases heq
  · next heq =>
    cases heq
    exact absurd (by decide) hc
  · next heq =>
    cases heq
    rw [if_neg hc]

/-- A space has one column. -/
theorem width_space (rest : List Char) : width (' ' :: rest) = 1 + width rest :=
  width_ascii (by decide) (fun h => absurd h (by decide))

/-! ### Escape sequences -/

/-- The characters of a sequence begin none. -/
theorem ne_escape_of_part (hc : isSequencePart c) : c ≠ '\x1b' := by
  rintro rfl
  exact absurd hc (by decide)

/-- They are ASCII. -/
theorem toNat_lt_of_part (hc : isSequencePart c) : c.toNat < 0x80 := by
  simp only [isSequencePart, Bool.or_eq_true, Bool.and_eq_true, decide_eq_true_eq, beq_iff_eq]
    at hc
  omega

/-- What an escape sequence leaves over has no more columns than all that follows its beginning. -/
theorem width_afterSequence_le (cs : List Char) : width (afterSequence cs) ≤ width cs := by
  have hdrop : width (cs.dropWhile isSequencePart) ≤ width cs := by
    induction cs with
    | nil => exact Nat.le_refl _
    | cons c rest ih =>
      by_cases hc : isSequencePart c
      · rw [List.dropWhile_cons_of_pos hc, width_ascii (toNat_lt_of_part hc)
          (fun h => absurd h (ne_escape_of_part hc))]
        exact Nat.le_trans ih (Nat.le_add_left _ _)
      · exact Nat.le_of_eq (by rw [List.dropWhile_cons_of_neg hc])
  refine Nat.le_trans ?_ hdrop
  unfold afterSequence
  split
  · next heq => exact Nat.le_of_eq (by rw [heq])
  · next c rest heq =>
    rw [heq]
    split
    · next hend =>
      -- The end of the sequence is no second beginning, so that it has columns of its own.
      simp only [Bool.and_eq_true, decide_eq_true_eq] at hend
      have hescape : c ≠ '\x1b' := by
        rintro rfl
        exact absurd hend.1 (by decide)
      rw [width_ascii (by omega) (fun h => absurd h hescape)]
      exact Nat.le_add_left _ _
    · exact Nat.le_refl _

/-- An escape sequence ends inside a text, or it goes on in the text that follows. -/
theorem afterSequence_append (cs zs : List Char) :
    afterSequence (cs ++ zs) = afterSequence cs ++ zs ∨
      afterSequence (cs ++ zs) = afterSequence zs := by
  unfold afterSequence
  rw [List.dropWhile_append]
  cases hdrop : cs.dropWhile isSequencePart with
  | nil => exact .inr (by simp)
  | cons c rest =>
    refine .inl ?_
    simp only [List.isEmpty_cons, Bool.false_eq_true, if_false, List.cons_append]
    split <;> rfl

/-! ### Clusters -/

/-- A cluster ends inside a text or in front of the two spaces that follow, or the first of the
spaces belongs to it. -/
theorem afterCluster_append_gap (last : Bond) (oddFlag pictured : Bool) (cs zs : List Char) :
    afterCluster last oddFlag pictured (cs ++ ' ' :: ' ' :: zs)
        = afterCluster last oddFlag pictured cs ++ ' ' :: ' ' :: zs ∨
      afterCluster last oddFlag pictured (cs ++ ' ' :: ' ' :: zs) = ' ' :: zs := by
  have hspace : Bond.of ' ' = .other := by decide
  induction cs generalizing last oddFlag pictured with
  | nil =>
    simp only [List.nil_append, afterCluster, hspace]
    split
    · exact .inr (by simp [Bond.holds])
    · exact .inl rfl
  | cons c rest ih =>
    simp only [List.cons_append, afterCluster]
    split
    · exact ih _ _ _
    · exact .inl rfl

/-- A cluster does not reach over a space, so what stands behind one has no part in its columns. -/
theorem clusterWidth_append_gap (c : Char) (bond : Bond) (cs zs : List Char) :
    clusterWidth c bond (cs ++ ' ' :: zs) = clusterWidth c bond cs := by
  have hpicture : asksForPicture (cs ++ ' ' :: zs) = asksForPicture cs := by
    cases cs with
    | nil => rfl
    | cons d rest => rfl
  simp only [clusterWidth, hpicture]

/-! ### Two texts -/

/-- With two spaces between them, two texts have no more columns than each on its own. -/
theorem width_append_gap_le (xs ys : List Char) :
    width (xs ++ ' ' :: ' ' :: ys) ≤ width xs + 2 + width ys := by
  have hgap : width (' ' :: ' ' :: ys) = 2 + width ys := by
    rw [width_space, width_space]
    omega
  -- The characters are counted from the left, so that the induction is on how the first text is
  -- counted.
  induction xs using width.induct with
  | case1 =>
    rw [List.nil_append, hgap]
    omega
  | case2 rest ih =>
    rw [List.cons_append, List.cons_append, width_sequence, width_sequence]
    rcases afterSequence_append rest (' ' :: ' ' :: ys) with h | h
    · rw [h]
      exact ih
    · have hle := width_afterSequence_le (' ' :: ' ' :: ys)
      rw [h]
      omega
  | case3 c rest hsequence hc ih =>
    have hhead : c = '\x1b' → rest.head? ≠ some '[' := by
      intro hescape hhead
      obtain ⟨tail, rfl⟩ := List.head?_eq_some_iff.mp hhead
      exact hsequence tail hescape rfl
    have hheadGap : c = '\x1b' → (rest ++ ' ' :: ' ' :: ys).head? ≠ some '[' := by
      intro hescape
      cases rest with
      | nil => simp
      | cons d tail => exact hhead hescape
    rw [List.cons_append, width_ascii hc hheadGap, width_ascii hc hhead]
    omega
  | case4 c rest hsequence hc bond ih =>
    subst bond
    rw [List.cons_append, width_cluster hc, width_cluster hc, clusterWidth_append_gap]
    rcases afterCluster_append_gap (Bond.of c) (Bond.of c == .flagLetter)
        (Bond.of c == .pictograph) rest ys with h | h
    · rw [h]
      omega
    · rw [h, width_space]
      omega

/-- The lines of two texts next to each other: the last line of the first goes on with the first
line of the second. -/
theorem exists_splitOnChar_append (separator : Char) (xs ys : List Char) :
    ∃ initial last first rest, splitOnChar separator xs = initial ++ [last] ∧
      splitOnChar separator ys = first :: rest ∧
      splitOnChar separator (xs ++ ys) = initial ++ (last ++ first) :: rest := by
  obtain ⟨first, rest, hys⟩ := List.exists_cons_of_ne_nil (splitOnChar_ne_nil separator ys)
  induction xs with
  | nil => exact ⟨[], [], first, rest, rfl, hys, hys⟩
  | cons c xs ih =>
    obtain ⟨initial, last, first', rest', hxs, hys', happend⟩ := ih
    -- A separator begins a new line. Any other character is put in front of the first line, which
    -- is the last one when there is no other.
    by_cases hc : c = separator
    · refine ⟨[] :: initial, last, first', rest', ?_, hys', ?_⟩
      · rw [splitOnChar, if_pos hc, hxs, List.cons_append]
      · rw [List.cons_append, splitOnChar, if_pos hc, happend, List.cons_append]
    · cases initial with
      | nil =>
        refine ⟨[], c :: last, first', rest', ?_, hys', ?_⟩
        · rw [splitOnChar, if_neg hc, hxs]
          rfl
        · rw [List.cons_append, splitOnChar, if_neg hc, happend]
          rfl
      | cons piece initial =>
        refine ⟨(c :: piece) :: initial, last, first', rest', ?_, hys', ?_⟩
        · rw [splitOnChar, if_neg hc, hxs]
          rfl
        · rw [List.cons_append, splitOnChar, if_neg hc, happend]
          rfl

end TagScript.Text
