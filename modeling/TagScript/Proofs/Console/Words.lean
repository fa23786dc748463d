import Mathlib.Data.List.DropRight
import TagScript.Console.Word
import TagScript.Proofs.Text.Octets

/-!
# `TagScript.Proofs.Console.Words`: the word around a byte position

A word is found in the bytes of a line, from a byte position that may lie inside a character. The
bytes that end a word are characters of their own, and no byte of another character is one of
them. So the two ends of the word lie between characters all the same, and in the characters of
the line it is the longest stretch around the position without a boundary (`IsWord`,
`wordBounds_encode`).

The position is in bytes. It is also a number of characters when the characters before it are
ASCII; then the word is the one around this place among the characters (`around_of_ascii`).
-/

set_option autoImplicit false

namespace TagScript.Console

open Text

variable {b : UInt8} {c : Char} {cs : List Char}

/-! ### Boundaries -/

/-- Characters that are not ASCII end no word. -/
theorem isBoundary_of_le (hc : 0x80 ≤ c.toNat) : isBoundary c = false := by
  have hne : ∀ d : Char, d.toNat < 0x80 → (c == d) = false := by
    intro d hd
    rw [beq_eq_false_iff_ne]
    rintro rfl
    omega
  simp [isBoundary, hne]

/-- And neither do bytes that are not ASCII. -/
theorem isBoundaryByte_of_le (hb : 0x80 ≤ b.toNat) : isBoundaryByte b = false := by
  have hlt : b.toNat < 0x100 := b.toNat_lt
  have htoNat : (Char.ofNat b.toNat).toNat = b.toNat := by
    rw [Char.ofNat, dif_pos (Or.inl (by omega))]
    rfl
  exact isBoundary_of_le (htoNat.symm ▸ hb)

/-- Whether a byte ends a word is a matter of the character it belongs to. -/
theorem isBoundaryByte_of_mem (hb : b ∈ String.utf8EncodeChar c) :
    isBoundaryByte b = isBoundary c := by
  by_cases hc : c.toNat < 0x80
  · rw [encode_singleton hc, List.mem_singleton] at hb
    rw [hb, isBoundaryByte, toNat_ofNat_byte (by omega), Char.ofNat_toNat]
  · rw [isBoundary_of_le (Nat.not_lt.mp hc),
      isBoundaryByte_of_le (le_toNat_of_mem_encode (Nat.not_lt.mp hc) hb)]

/-- Every byte of a character ends a word when the character does. -/
theorem not_boundary_of_mem (c : Char) :
    ∀ b ∈ String.utf8EncodeChar c, (!isBoundaryByte b) = !isBoundary c := by
  intro b hb
  rw [isBoundaryByte_of_mem hb]

/-! ### Bytes that tell what their character is -/

/-- Whether a byte is a character of ASCII is a matter of the character it belongs to. -/
theorem isOctet_of_mem {d : Char} (hd : d.toNat < 0x80) (hb : b ∈ String.utf8EncodeChar c) :
    isOctet d b = (c == d) := by
  rw [Bool.eq_iff_iff, isOctet, beq_iff_eq, beq_iff_eq]
  by_cases hc : c.toNat < 0x80
  · rw [encode_singleton hc, List.mem_singleton] at hb
    rw [hb, toNat_ofNat_byte (by omega), Char.toNat_inj]
  · have hle := le_toNat_of_mem_encode (Nat.not_lt.mp hc) hb
    refine iff_of_false (by omega) ?_
    rintro rfl
    exact hc hd

section

variable {p : UInt8 → Bool} {q : Char → Bool}

/-- If bytes are told by the character that they belong to, the bytes up to the first one that is
not of a kind are those of the characters up to the first such character. -/
theorem takeWhile_encode (h : ∀ c, ∀ b ∈ String.utf8EncodeChar c, p b = q c) (cs : List Char) :
    (encode cs).takeWhile p = encode (cs.takeWhile q) := by
  induction cs with
  | nil => rfl
  | cons c cs ih =>
      have hbytes : encode (c :: cs) = String.utf8EncodeChar c ++ encode cs := rfl
      have hall := h c
      rw [hbytes]
      cases hc : q c with
      | true =>
          rw [hc] at hall
          rw [List.takeWhile_append_of_pos hall, ih, List.takeWhile_cons_of_pos hc]
          rfl
      | false =>
          obtain ⟨b, tail, hcons, -⟩ := leading?_encode c []
          rw [hcons, hc] at hall
          rw [hcons, List.cons_append, List.takeWhile_cons_of_neg (by simp [hall b]),
            List.takeWhile_cons_of_neg (by simp [hc])]
          rfl

/-- The same from the end. -/
theorem rtakeWhile_encode (h : ∀ c, ∀ b ∈ String.utf8EncodeChar c, p b = q c) (cs : List Char) :
    (encode cs).rtakeWhile p = encode (cs.rtakeWhile q) := by
  induction cs using List.reverseRecOn with
  | nil => rfl
  | append_singleton cs c ih =>
      have hbytes : encode [c] = String.utf8EncodeChar c := by simp [encode]
      have hall : ∀ b ∈ (String.utf8EncodeChar c).reverse, p b = q c := fun b hb =>
        h c b (List.mem_reverse.mp hb)
      rw [encode_append, hbytes]
      cases hc : q c with
      | true =>
          rw [hc] at hall
          rw [List.rtakeWhile_concat_pos _ _ _ hc, encode_append, ← ih, hbytes, List.rtakeWhile,
            List.reverse_append, List.takeWhile_append_of_pos hall, List.reverse_append,
            List.reverse_reverse, List.rtakeWhile]
      | false =>
          -- The last byte of the character is not taken, and it is all that is looked at.
          obtain ⟨b, tail, hcons⟩ := List.exists_cons_of_ne_nil
            (List.reverse_ne_nil_iff.mpr (String.utf8EncodeChar_ne_nil (c := c)))
          rw [hcons, hc] at hall
          rw [List.rtakeWhile, List.reverse_append, hcons, List.cons_append,
            List.takeWhile_cons_of_neg (by simp [hall b]),
            List.rtakeWhile_concat_neg _ _ _ (by simp [hc])]
          rfl

end

/-! ### A position in bytes -/

/-- A position in the bytes of a line cuts it between two characters, or inside a character that
takes several bytes and so ends no word. -/
theorem exists_cut (cs : List Char) {position : Nat} (h : position ≤ (encode cs).length) :
    ∃ front middle back left right, cs = front ++ middle ++ back ∧
      (∀ c ∈ middle, isBoundary c = false) ∧ encode middle = left ++ right ∧
      (encode cs).take position = encode front ++ left ∧
      (encode cs).drop position = right ++ encode back := by
  induction cs generalizing position with
  | nil =>
      obtain rfl : position = 0 := Nat.le_zero.mp h
      exact ⟨[], [], [], [], [], rfl, by simp, rfl, rfl, rfl⟩
  | cons c cs ih =>
      have hbytes : encode (c :: cs) = String.utf8EncodeChar c ++ encode cs := rfl
      have hsize : (String.utf8EncodeChar c).length = c.utf8Size := String.length_utf8EncodeChar c
      rw [length_encode_cons] at h
      rcases Nat.eq_zero_or_pos position with rfl | hpos
      · exact ⟨[], [], c :: cs, [], [], rfl, by simp, rfl, rfl, rfl⟩
      -- The position is inside the first character, or the cut is made in the rest of the line.
      rcases Nat.lt_or_ge position c.utf8Size with hlt | hge
      · refine ⟨[], [c], cs, (String.utf8EncodeChar c).take position,
          (String.utf8EncodeChar c).drop position, rfl, ?_, ?_, ?_, ?_⟩
        · -- A character with a position inside it takes two bytes at least, so it is beyond ASCII.
          have hwide : 0x80 ≤ c.toNat := by
            by_contra hone
            rw [encode_singleton (Nat.not_le.mp hone), List.length_singleton] at hsize
            omega
          simp [isBoundary_of_le hwide]
        · simp [encode]
        · rw [hbytes, List.take_append_of_le_length (by omega)]
          rfl
        · rw [hbytes, List.drop_append_of_le_length (by omega)]
      · obtain ⟨front, middle, back, left, right, rfl, hmiddle, hparts, htake, hdrop⟩ :=
          ih (by omega : position - c.utf8Size ≤ (encode cs).length)
        refine ⟨c :: front, middle, back, left, right, rfl, hmiddle, hparts, ?_, ?_⟩
        · rw [hbytes, List.take_append, List.take_of_length_le (by omega), hsize, htake]
          simp [encode]
        · rw [hbytes, List.drop_append, List.drop_of_length_le (by omega), hsize, hdrop]
          rfl

/-! ### The word -/

/-- A stretch of a line without a boundary that cannot be made longer: before it and after it is
a boundary or nothing. -/
structure IsWord (before word after : List Char) : Prop where
  inside : ∀ c ∈ word, isBoundary c = false
  starts : ∀ c ∈ before.getLast?, isBoundary c = true
  ends : ∀ c ∈ after.head?, isBoundary c = true

section

variable {front middle back : List Char} {left right : List UInt8}

/-- What there is of a word around a cut: the end of what is in front of it, the characters that are
cut, and the beginning of what is behind it. -/
theorem isWord_around (front back : List Char) (hmiddle : ∀ c ∈ middle, isBoundary c = false) :
    IsWord (front.rdropWhile (!isBoundary ·))
      (front.rtakeWhile (!isBoundary ·) ++ middle ++ back.takeWhile (!isBoundary ·))
      (back.dropWhile (!isBoundary ·)) where
  inside c hc := by
    simp only [List.mem_append] at hc
    rcases hc with (hc | hc) | hc
    · simpa using List.mem_rtakeWhile_imp hc
    · exact hmiddle c hc
    · simpa using List.mem_takeWhile_imp hc
  starts c hc := by
    obtain ⟨hne, rfl⟩ := List.mem_getLast?_eq_getLast hc
    simpa using List.rdropWhile_last_not _ _ hne
  ends c hc := by
    have hnot := List.head?_dropWhile_not (!isBoundary ·) back
    rw [Option.mem_def.mp hc] at hnot
    simpa using hnot

/-- The bytes of a word in front of a cut. -/
theorem length_takeWhile_reverse (hleft : ∀ b ∈ left, isBoundaryByte b = false) :
    ((encode front ++ left).reverse.takeWhile fun b => !isBoundaryByte b).length
      = (encode (front.rtakeWhile (!isBoundary ·))).length + left.length := by
  have hall : ∀ b ∈ left.reverse, (!isBoundaryByte b) = true := by
    intro b hb
    simp [hleft b (List.mem_reverse.mp hb)]
  rw [List.reverse_append, List.takeWhile_append_of_pos hall,
    ← rtakeWhile_encode not_boundary_of_mem, List.length_append, List.length_reverse, Nat.add_comm,
    List.rtakeWhile, List.length_reverse]

/-- The bytes of a word behind a cut. -/
theorem length_takeWhile (hright : ∀ b ∈ right, isBoundaryByte b = false) :
    ((right ++ encode back).takeWhile fun b => !isBoundaryByte b).length
      = right.length + (encode (back.takeWhile (!isBoundary ·))).length := by
  rw [List.takeWhile_append_of_pos fun b hb => by simp [hright b hb],
    takeWhile_encode not_boundary_of_mem, List.length_append]

/-- The bounds of the word around a cut. -/
theorem wordBounds_of_cut (cs : List Char) (cursor : Nat)
    (hmiddle : ∀ c ∈ middle, isBoundary c = false) (hparts : encode middle = left ++ right)
    (htake : (encode cs).take cursor = encode front ++ left)
    (hdrop : (encode cs).drop cursor = right ++ encode back) :
    wordBounds (encode cs) cursor = ((encode (front.rdropWhile (!isBoundary ·))).length,
      (encode front).length + (encode middle).length
        + (encode (back.takeWhile (!isBoundary ·))).length) := by
  have hbytes : ∀ b ∈ left ++ right, isBoundaryByte b = false := by
    intro b hb
    obtain ⟨c, hc, hb⟩ := List.mem_flatMap.mp (hparts ▸ hb : b ∈ encode middle)
    exact (isBoundaryByte_of_mem hb).trans (hmiddle c hc)
  obtain ⟨hleft, hright⟩ := List.forall_mem_append.mp hbytes
  have hfront : (encode front).length = (encode (front.rdropWhile (!isBoundary ·))).length
      + (encode (front.rtakeWhile (!isBoundary ·))).length := by
    rw [← List.length_append, ← encode_append, List.rdropWhile_append_rtakeWhile]
  simp only [wordBounds, htake, hdrop, length_takeWhile_reverse hleft, length_takeWhile hright,
    hparts, List.length_append, Prod.mk.injEq]
  omega

end

/-- The bounds of the word around a byte position lie between characters, and in characters the
word is the longest stretch without a boundary around the position. -/
theorem wordBounds_encode (cs : List Char) (cursor : Nat) :
    ∃ before word after, cs = before ++ word ++ after ∧ IsWord before word after ∧
      wordBounds (encode cs) cursor
        = ((encode before).length, (encode (before ++ word)).length) ∧
      (encode before).length ≤ min cursor (encode cs).length ∧
      min cursor (encode cs).length ≤ (encode (before ++ word)).length := by
  obtain ⟨front, middle, back, left, right, hcs, hmiddle, hparts, htake, hdrop⟩ :=
    exists_cut cs (Nat.min_le_right cursor (encode cs).length)
  have hfront : front.rdropWhile (!isBoundary ·) ++ front.rtakeWhile (!isBoundary ·) = front :=
    List.rdropWhile_append_rtakeWhile
  have hback : back.takeWhile (!isBoundary ·) ++ back.dropWhile (!isBoundary ·) = back :=
    List.takeWhile_append_dropWhile
  -- A cursor behind the end cuts the line where its end does.
  have hbounds := wordBounds_of_cut cs cursor hmiddle hparts
    (by rw [← htake, List.take_eq_take_iff]; omega) (by rw [← hdrop, List.drop_eq_drop_iff]; omega)
  have hposition : min cursor (encode cs).length = (encode front).length + left.length := by
    rw [← List.length_append, ← htake, List.length_take, Nat.min_assoc, Nat.min_self]
  have hstart : (encode (front.rdropWhile (!isBoundary ·))).length ≤ (encode front).length := by
    conv => rhs; rw [← hfront]
    rw [encode_append, List.length_append]
    exact Nat.le_add_right _ _
  have hend : encode (front.rdropWhile (!isBoundary ·) ++ (front.rtakeWhile (!isBoundary ·)
      ++ middle ++ back.takeWhile (!isBoundary ·)))
      = encode front ++ encode middle ++ encode (back.takeWhile (!isBoundary ·)) := by
    rw [← List.append_assoc, ← List.append_assoc, hfront, encode_append, encode_append]
  refine ⟨_, _, _, ?_, isWord_around front back hmiddle, ?_, ?_, ?_⟩
  · conv => lhs; rw [hcs, ← hfront, ← hback]
    simp only [List.append_assoc]
  · rw [hend, hbounds, List.length_append, List.length_append]
  · omega
  · rw [hend, hposition, List.length_append, List.length_append, hparts, List.length_append]
    omega

/-- If the characters before a position are ASCII, the position is the same in bytes, and the word
is the one around that place among the characters. -/
theorem around_of_ascii {before word after : List Char} {position : Nat}
    (hposition : position ≤ (before ++ word ++ after).length)
    (hascii : ∀ c ∈ (before ++ word ++ after).take position, c.toNat < 0x80)
    (hstart : (encode before).length ≤ position)
    (hend : min position (encode (before ++ word ++ after)).length
      ≤ (encode (before ++ word)).length) :
    before.length ≤ position ∧ position ≤ (before ++ word).length := by
  have hbytes := length_le_length_encode (before ++ word ++ after)
  refine ⟨(length_le_length_encode before).trans hstart, ?_⟩
  -- Were the word over before the position, then all of it would be ASCII, and its end in bytes
  -- would be before the position as well.
  by_contra hover
  have htake : (before ++ word ++ after).take position
      = before ++ word ++ after.take (position - (before ++ word).length) := by
    rw [List.take_append, List.take_of_length_le (by omega)]
  have hlength := length_encode_ascii fun c hc =>
    hascii c (htake ▸ List.mem_append_left _ hc : c ∈ (before ++ word ++ after).take position)
  omega

end TagScript.Console
