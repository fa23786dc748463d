import TagScript.Proofs.Console.Words

/-!
# `TagScript.Proofs.Console.WordScan`: the word at the cursor, found character by character

`wordBounds` looks at single bytes. The word can also be found by reading characters, backwards
from the cursor and forwards from it, up to the first that ends a word (`scanBounds`). The cursor
may lie inside a character, and then neither way reads that character: each reads replacements,
one byte at a time, until it comes to the bytes of the next one. The two ways find the same bounds
in any bytes (`wordBounds_eq_scanBounds`), since a character that ends a word is one byte, and all
bytes that are read otherwise are none of these.

In the bytes of a text, the bounds are those of a word, and what lies between them contains every
stretch around the cursor in which no word ends (`IsWord.contains`). So it is the only such stretch
that cannot be made longer.
-/

set_option autoImplicit false

namespace TagScript.Console

open Text

/-! ### Reading characters -/

/-- The character that bytes begin with, and how many bytes more than one it has. A byte that
begins none is read as the replacement. -/
def firstCharacter (b : UInt8) (rest : List UInt8) : Char × Nat :=
  (leading? b rest).getD (replacement, 0)

/-- The character that bytes end with, and how many bytes more than one it has. The last byte is
given first, and the bytes in front of it in backward order. The character begins with the nearest
byte that continues none, which is looked for among three bytes. If it does not end with the last
byte, this one is read as the replacement. -/
def lastCharacter (b : UInt8) (front : List UInt8) : Char × Nat :=
  if b.toNat < 0x80 then (Char.ofNat b.toNat, 0)
  else
    let continuing := (front.take 3).takeWhile fun b => (continuation? b).isSome
    match ((b :: front).take (continuing.length + 2)).reverse with
    | [] => (replacement, 0)
    | first :: rest =>
      match leading? first rest with
      | some (c, more) => if more = rest.length then (c, more) else (replacement, 0)
      | none => (replacement, 0)

/-- How many bytes are passed over before a character that ends a word. The first `skip` of them
belong to a character that was read already. -/
def scan (read : UInt8 → List UInt8 → Char × Nat) : Nat → List UInt8 → Nat
  | _, [] => 0
  | skip + 1, _ :: rest => scan read skip rest + 1
  | 0, b :: rest =>
    let (c, more) := read b rest
    if isBoundary c then 0 else scan read more rest + 1

/-- The bounds of the word around a cursor, found by reading characters. -/
def scanBounds (input : List UInt8) (cursor : Nat) : Nat × Nat :=
  let position := min cursor input.length
  (position - scan lastCharacter 0 (input.take position).reverse,
    position + scan firstCharacter 0 (input.drop position))

/-! ### What is read tells what ends a word -/

variable {b : UInt8} {rest : List UInt8} {c : Char} {more : Nat}

/-- A byte that continues a character is not ASCII. -/
theorem le_of_continuation? {n : Nat} (h : continuation? b = some n) : 0x80 ≤ b.toNat := by
  unfold continuation? at h
  split at h
  · next hrange =>
      simp only [Bool.and_eq_true, decide_eq_true_eq] at hrange
      exact hrange.1
  · cases h

/-- A character that is read is its byte, or it is not ASCII and no byte of it is. -/
theorem leading?_cases (h : leading? b rest = some (c, more)) :
    b.toNat < 0x80 ∧ c = Char.ofNat b.toNat ∧ more = 0 ∨
      0x80 ≤ b.toNat ∧ 0x80 ≤ c.toNat ∧ ∀ d ∈ rest.take more, 0x80 ≤ d.toNat := by
  rcases leading?_forms h with hascii | ⟨hb, hrest, hforms⟩
  · exact .inl hascii
  · refine .inr ⟨hb, by omega, fun d hd => ?_⟩
    obtain ⟨n, hn⟩ := Option.isSome_iff_exists.mp (hrest d hd)
    exact le_of_continuation? hn

/-- What a reading has to tell: whether the byte that it begins at ends a word. The bytes that it
passes over then end none. -/
def Tells (b : UInt8) (rest : List UInt8) (read : Char × Nat) : Prop :=
  isBoundary read.1 = isBoundaryByte b ∧ ∀ d ∈ rest.take read.2, isBoundaryByte d = false

/-- A byte read as a character of its own tells whether it ends a word. -/
theorem tells_ascii (b : UInt8) (rest : List UInt8) : Tells b rest (Char.ofNat b.toNat, 0) :=
  ⟨rfl, by simp⟩

/-- A character beyond ASCII tells that none of its bytes ends a word. -/
theorem tells_of_le (hb : 0x80 ≤ b.toNat) (hc : 0x80 ≤ c.toNat)
    (hrest : ∀ d ∈ rest.take more, 0x80 ≤ d.toNat) : Tells b rest (c, more) :=
  ⟨(isBoundary_of_le hc).trans (isBoundaryByte_of_le hb).symm,
    fun d hd => isBoundaryByte_of_le (hrest d hd)⟩

/-- So does the replacement character, for one byte beyond ASCII. -/
theorem tells_replacement (hb : 0x80 ≤ b.toNat) : Tells b rest (replacement, 0) :=
  tells_of_le hb (by decide) (by simp)

/-- Reading forward tells whether the first byte ends a word. -/
theorem tells_firstCharacter (b : UInt8) (rest : List UInt8) :
    Tells b rest (firstCharacter b rest) := by
  rw [firstCharacter]
  cases h : leading? b rest with
  | none =>
      -- A byte that begins no character is not ASCII.
      refine tells_replacement (Nat.not_lt.mp fun hone => ?_)
      simp [leading?, hone] at h
  | some read =>
      obtain ⟨c, more⟩ := read
      rcases leading?_cases h with ⟨-, rfl, rfl⟩ | ⟨hb, hc, hrest⟩
      · exact tells_ascii b rest
      · exact tells_of_le hb hc hrest

/-- Reading backward tells whether the last byte ends a word. -/
theorem tells_lastCharacter (b : UInt8) (front : List UInt8) :
    Tells b front (lastCharacter b front) := by
  rw [lastCharacter]
  split_ifs with hone
  · exact tells_ascii b front
  dsimp only
  generalize ((front.take 3).takeWhile fun b => (continuation? b).isSome).length = n
  have hb := Nat.not_lt.mp hone
  split
  · exact tells_replacement hb
  · next first rest hparts =>
      split
      · next c more hread =>
        split_ifs with hmore
        · -- From the first byte of the character on there are as many as it has, so these are all
          -- of it, and the last byte is one of them.
          subst hmore
          have hback : b :: front.take (n + 1) = rest.reverse ++ [first] := by
            rw [← List.take_succ_cons, ← List.reverse_reverse (List.take _ _), hparts,
              List.reverse_cons]
          have hlength := congrArg List.length hback
          simp only [List.length_cons, List.length_append, List.length_reverse, List.length_take,
            List.length_nil] at hlength
          have htake : front.take rest.length = front.take (n + 1) := by
            rw [List.take_eq_take_iff]
            omega
          rcases leading?_cases hread with ⟨hfirst, -, hempty⟩ | ⟨hfirst, hc, hrest⟩
          · rw [List.length_eq_zero_iff.mp hempty] at hback
            obtain ⟨rfl, -⟩ := List.cons.inj hback
            exact absurd hfirst hone
          · refine tells_of_le hb hc fun d hd => ?_
            have hmem : d ∈ rest.reverse ++ [first] :=
              hback ▸ List.mem_cons_of_mem b (htake ▸ hd)
            rcases List.mem_append.mp hmem with hd | hd
            · exact hrest d (by rwa [List.take_length, ← List.mem_reverse])
            · exact List.mem_singleton.mp hd ▸ hfirst
        · exact tells_replacement hb
      · exact tells_replacement hb

/-- Reading characters passes over the bytes that end no word. -/
theorem scan_eq {read : UInt8 → List UInt8 → Char × Nat}
    (htells : ∀ b rest, Tells b rest (read b rest)) (skip : Nat) (bytes : List UInt8)
    (hskip : ∀ b ∈ bytes.take skip, isBoundaryByte b = false) :
    scan read skip bytes = (bytes.takeWhile fun b => !isBoundaryByte b).length := by
  induction bytes generalizing skip with
  | nil => cases skip <;> rfl
  | cons b rest ih =>
      -- Bytes to be skipped belong to the character read last. They end no word, as that one ends
      -- none.
      cases skip with
      | succ skip =>
          rw [List.take_succ_cons, List.forall_mem_cons] at hskip
          rw [scan, ih skip hskip.2, List.takeWhile_cons_of_pos (by simp [hskip.1]),
            List.length_cons]
      | zero =>
          obtain ⟨hsame, hpassed⟩ := htells b rest
          rw [scan]
          dsimp only
          rw [hsame, ih _ hpassed]
          cases hb : isBoundaryByte b with
          | true => rw [if_pos rfl, List.takeWhile_cons_of_neg (by simp [hb]), List.length_nil]
          | false =>
              rw [if_neg Bool.false_ne_true, List.takeWhile_cons_of_pos (by simp [hb]),
                List.length_cons]

/-- Single bytes and whole characters lead to the same bounds. -/
theorem wordBounds_eq_scanBounds (input : List UInt8) (cursor : Nat) :
    wordBounds input cursor = scanBounds input cursor := by
  have htake : input.take (min cursor input.length) = input.take cursor := by
    rw [List.take_eq_take_iff]
    omega
  have hdrop : input.drop (min cursor input.length) = input.drop cursor := by
    rw [List.drop_eq_drop_iff]
    omega
  rw [scanBounds, scan_eq tells_lastCharacter 0 _ (by simp),
    scan_eq tells_firstCharacter 0 _ (by simp), htake, hdrop, wordBounds, List.length_take]

/-! ### The word around a position -/

section

variable {before word after before' run after' : List Char} {position : Nat}

/-- A byte position is in the stretch `run` behind `before`, or at one of its ends. -/
def Around (before run : List Char) (position : Nat) : Prop :=
  (encode before).length ≤ position ∧ position ≤ (encode (before ++ run)).length

/-- A text with characters behind it has more bytes. -/
theorem length_encode_lt_append (cs : List Char) {ds : List Char} (h : ds ≠ []) :
    (encode cs).length < (encode (cs ++ ds)).length := by
  have hpos := List.length_pos_iff.mpr h
  have hle := length_le_length_encode ds
  rw [encode_append, List.length_append]
  omega

/-- A stretch around the position in which no word ends begins no earlier than the word. -/
private theorem IsWord.prefix_before (h : IsWord before word after)
    (hsame : before ++ word ++ after = before' ++ run ++ after')
    (hrun : ∀ c ∈ run, isBoundary c = false) (hword : Around before word position)
    (haround : Around before' run position) : before <+: before' := by
  rw [List.append_assoc, List.append_assoc] at hsame
  rcases List.append_eq_append_iff.mp hsame with ⟨l, rfl, -⟩ | ⟨l, rfl, hrest⟩
  · exact List.prefix_append before l
  rcases List.eq_nil_or_concat l with rfl | ⟨l, c, rfl⟩
  · simp
  -- The boundary in front of the word comes later. It is in the stretch, or after it.
  exfalso
  have hc : isBoundary c = true := h.starts c (by simp)
  have hnot : c ∉ run := fun hmem => Bool.false_ne_true ((hrun c hmem).symm.trans hc)
  rcases List.append_eq_append_iff.mp hrest with ⟨k, hk, -⟩ | ⟨k, rfl, -⟩
  · have hne : k ≠ [] := by
      rintro rfl
      exact hnot (by rw [← List.append_nil run, ← hk]; simp)
    have hlt := length_encode_lt_append (before' ++ run) hne
    rw [List.append_assoc, ← hk] at hlt
    exact absurd (hlt.trans_le hword.1) (Nat.not_lt.mpr haround.2)
  · exact hnot (by simp)

/-- It ends no later than the word. -/
private theorem IsWord.prefix_word (h : IsWord before word after)
    (hsame : before ++ word ++ after = before' ++ run ++ after')
    (hrun : ∀ c ∈ run, isBoundary c = false) (hword : Around before word position)
    (haround : Around before' run position) (hbefore : before <+: before') :
    before' ++ run <+: before ++ word := by
  obtain ⟨front, rfl⟩ := hbefore
  rcases List.append_eq_append_iff.mp hsame with ⟨l, hl, hrest⟩ | ⟨l, hl, -⟩
  · cases l with
    | nil =>
        simp [hl]
    | cons c l =>
        -- The boundary behind the word comes earlier. It is in the stretch, or before it.
        exfalso
        have hc : isBoundary c = true := h.ends c (by simp [hrest])
        have hnot : c ∉ run := fun hmem => Bool.false_ne_true ((hrun c hmem).symm.trans hc)
        rw [List.append_assoc, List.append_assoc, List.append_cancel_left_eq] at hl
        rcases List.append_eq_append_iff.mp hl with ⟨k, hk, hk'⟩ | ⟨k, hk, hk'⟩
        · exact hnot (hk' ▸ by simp)
        · have hne : k ≠ [] := by
            rintro rfl
            exact hnot (by rw [List.nil_append] at hk'; simp [← hk'])
          have hlt := length_encode_lt_append (before ++ word) hne
          rw [List.append_assoc, ← hk] at hlt
          exact absurd (hlt.trans_le haround.1) (Nat.not_lt.mpr hword.2)
  · exact ⟨l, hl.symm⟩

/-- A word contains every stretch around the position in which no word ends. -/
theorem IsWord.contains (h : IsWord before word after)
    (hsame : before ++ word ++ after = before' ++ run ++ after')
    (hrun : ∀ c ∈ run, isBoundary c = false) (hword : Around before word position)
    (haround : Around before' run position) :
    before <+: before' ∧ before' ++ run <+: before ++ word := by
  have hbefore := h.prefix_before hsame hrun hword haround
  exact ⟨hbefore, h.prefix_word hsame hrun hword haround hbefore⟩

/-- So there is only one word around a position. -/
theorem IsWord.unique (h : IsWord before word after) (h' : IsWord before' run after')
    (hsame : before ++ word ++ after = before' ++ run ++ after')
    (hword : Around before word position) (haround : Around before' run position) :
    before' = before ∧ run = word := by
  obtain ⟨hfront, hback⟩ := h.contains hsame h'.inside hword haround
  obtain ⟨hfront', hback'⟩ := h'.contains hsame.symm h.inside haround hword
  obtain rfl : before' = before := List.IsPrefix.eq_of_length hfront'
    (Nat.le_antisymm hfront'.length_le hfront.length_le)
  have hsameEnd := List.IsPrefix.eq_of_length hback
    (Nat.le_antisymm hback.length_le hback'.length_le)
  exact ⟨rfl, List.append_cancel_left hsameEnd⟩

end

/-- **The bounds of a word.** Take any text and any cursor, behind the end of the text or inside a
character if need be. Reading characters from the cursor, backwards and forwards, finds the bounds
that reading bytes finds. They lie between characters of the text, and on either side of the cursor,
or of the end of the text if the cursor is behind it. No character between them ends a word. The
first of them is the beginning of the text or behind a character that ends a word, and the second
the end of the text or in front of such a character. Every stretch of characters around the cursor
in which no word ends lies between the bounds. Of these stretches only the one that they bound has
a character that ends a word, or an end of the text, on both of its sides. -/
theorem wordBounds_octets (s : String) (cursor : Nat) :
    wordBounds (octets s) cursor = scanBounds (octets s) cursor ∧
    ∃ before word after, s.toList = before ++ word ++ after ∧
      wordBounds (octets s) cursor
        = ((encode before).length, (encode (before ++ word)).length) ∧
      wordAt (octets s) cursor = String.ofList word ∧
      Around before word (min cursor (octets s).length) ∧
      IsWord before word after ∧
      ∀ before' run after', s.toList = before' ++ run ++ after' →
        (∀ c ∈ run, isBoundary c = false) → Around before' run (min cursor (octets s).length) →
        before <+: before' ∧ before' ++ run <+: before ++ word ∧
        (IsWord before' run after' → before' = before ∧ run = word) := by
  refine ⟨wordBounds_eq_scanBounds (octets s) cursor, ?_⟩
  obtain ⟨before, word, after, hs, hword, hbounds, haround⟩ := wordBounds_encode s.toList cursor
  refine ⟨before, word, after, hs, hbounds, ?_, haround, hword, ?_⟩
  · -- The bounds cut the text at characters, so what is between them is a text again.
    have hslice : slice (octets s) (encode before).length (encode (before ++ word)).length
        = encode word := by
      rw [slice, octets, hs, encode_append (before ++ word), List.take_left, encode_append,
        List.drop_left]
    rw [wordAt, octets, hbounds]
    dsimp only
    rw [← octets, hslice, ofOctets, decode_encode]
  · intro before' run after' hs' hrun haround'
    have hsame := hs.symm.trans hs'
    obtain ⟨hfront, hback⟩ := hword.contains hsame hrun haround haround'
    exact ⟨hfront, hback, fun hrun' => hword.unique hrun' hsame haround haround'⟩

-- The cursor is between the two bytes of a character.
example : wordBounds (octets "<v cé>") 5 = (3, 6) := by
  decide +kernel

end TagScript.Console
