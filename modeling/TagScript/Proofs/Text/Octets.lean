import Mathlib.Data.List.Basic
import TagScript.Text.Octets

/-!
# `TagScript.Proofs.Text.Octets`: text as bytes, and back

The UTF-8 form of a character is one byte for ASCII, and for all others two to four bytes none of
which is an ASCII character (`le_toNat_of_mem_encode`). Reading the bytes of a text back gives the
text (`decode_encode`). Bytes that are no text are read as something that takes no fewer bytes
(`length_le_encode_decode`).
-/

set_option autoImplicit false

namespace TagScript.Text

variable {b : UInt8} {rest bytes : List UInt8} {c : Char} {cs : List Char}
  {code least more n : Nat}

/-! ### Bytes that are written -/

/-- The bytes of a text are those of its parts. -/
theorem encode_append (cs ds : List Char) : encode (cs ++ ds) = encode cs ++ encode ds := by
  simp [encode]

/-- A character takes as many bytes as its UTF-8 form. -/
theorem length_encode_cons (c : Char) (cs : List Char) :
    (encode (c :: cs)).length = c.utf8Size + (encode cs).length := by
  simp [encode]

/-- The size of a text is the number of its bytes. -/
theorem length_octets (s : String) : (octets s).length = s.utf8ByteSize := by
  conv => rhs; rw [← String.ofList_toList (s := s)]
  simp [octets, encode, String.utf8ByteSize, String.ofList, List.utf8Encode]

/-- A character takes a byte at least. -/
theorem length_le_length_encode (cs : List Char) : cs.length ≤ (encode cs).length := by
  induction cs with
  | nil => exact Nat.le_refl _
  | cons c cs ih =>
      have hpos := Char.utf8Size_pos c
      rw [length_encode_cons, List.length_cons]
      omega

/-- The bytes of a character by its number. -/
theorem utf8EncodeChar_eq (c : Char) :
    String.utf8EncodeChar c =
      if c.toNat ≤ 127 then [UInt8.ofNat c.toNat]
      else if c.toNat ≤ 2047 then
        [UInt8.ofNat (c.toNat / 64 % 32 + 192), UInt8.ofNat (c.toNat % 64 + 128)]
      else if c.toNat ≤ 65535 then
        [UInt8.ofNat (c.toNat / 4096 % 16 + 224), UInt8.ofNat (c.toNat / 64 % 64 + 128),
          UInt8.ofNat (c.toNat % 64 + 128)]
      else
        [UInt8.ofNat (c.toNat / 262144 % 8 + 240), UInt8.ofNat (c.toNat / 4096 % 64 + 128),
          UInt8.ofNat (c.toNat / 64 % 64 + 128), UInt8.ofNat (c.toNat % 64 + 128)] := rfl

/-- A number that fits in a byte is its value. -/
theorem toNat_ofNat_byte (h : n < 0x100) : (UInt8.ofNat n).toNat = n := by
  rw [UInt8.toNat_ofNat']
  exact Nat.mod_eq_of_lt h

/-- An ASCII character is its own byte. -/
theorem encode_singleton (h : c.toNat < 0x80) : String.utf8EncodeChar c = [UInt8.ofNat c.toNat] := by
  rw [utf8EncodeChar_eq, if_pos (by omega)]

/-- No byte of any other character is one of an ASCII character. -/
theorem le_toNat_of_mem_encode (hc : 0x80 ≤ c.toNat) (hb : b ∈ String.utf8EncodeChar c) :
    0x80 ≤ b.toNat := by
  rw [utf8EncodeChar_eq, if_neg (by omega)] at hb
  have hlead : ∀ m k : Nat, m < 0x80 → 0x80 ≤ k → k + m < 0x100 →
      0x80 ≤ (UInt8.ofNat (m + k)).toNat := by
    intro m k _ _ _
    rw [toNat_ofNat_byte (by omega)]
    omega
  split_ifs at hb <;> simp only [List.mem_cons, List.not_mem_nil, or_false] at hb <;>
    rcases hb with rfl | rfl | rfl | rfl <;> exact hlead _ _ (by omega) (by omega) (by omega)

/-- ASCII characters are as many as their bytes. -/
theorem length_encode_ascii (h : ∀ c ∈ cs, c.toNat < 0x80) : (encode cs).length = cs.length := by
  induction cs with
  | nil => rfl
  | cons c cs ih =>
      obtain ⟨hc, hrest⟩ := List.forall_mem_cons.mp h
      have hbytes : encode (c :: cs) = String.utf8EncodeChar c ++ encode cs := rfl
      rw [hbytes, encode_singleton hc, List.length_append, ih hrest, List.length_singleton,
        List.length_cons, Nat.add_comm]

/-! ### Bytes that are read -/

/-- The code of a character is read as this character, if the form is not too long for it. -/
theorem wellFormed?_toNat (h : least ≤ c.toNat) : wellFormed? c.toNat least = some c := by
  have hvalid : c.toNat.isValidChar := c.valid
  simp [wellFormed?, h, hvalid, Char.ofNat_toNat]

/-- A continuing byte carries the last six bits. -/
theorem continuation?_ofNat (n : Nat) :
    continuation? (UInt8.ofNat (n % 64 + 128)) = some (n % 64) := by
  have htoNat : (UInt8.ofNat (n % 64 + 128)).toNat = n % 64 + 128 := toNat_ofNat_byte (by omega)
  have hrange : 0x80 ≤ n % 64 + 128 ∧ n % 64 + 128 < 0xc0 := by omega
  simp only [continuation?, htoNat, hrange, decide_true, Bool.and_self, if_true,
    Nat.add_sub_cancel]

/-- The codes of characters end at `0x110000`. -/
theorem toNat_lt (c : Char) : c.toNat < 0x110000 := by
  have h : c.toNat.isValidChar := c.valid
  rcases h with h | h <;> omega

/-- The first byte of a character says how many follow, and with these the character. -/
theorem leading?_encode (c : Char) (rest : List UInt8) :
    ∃ b tail, String.utf8EncodeChar c = b :: tail ∧
      leading? b (tail ++ rest) = some (c, tail.length) := by
  have hlt := toNat_lt c
  rw [utf8EncodeChar_eq]
  -- One case for each number of bytes. In each the payload bits put together are the character's
  -- number again, and the number is large enough to need these bytes.
  split_ifs with hone htwo hthree
  · refine ⟨_, [], rfl, ?_⟩
    unfold leading?
    dsimp only
    rw [toNat_ofNat_byte (by omega), if_pos (by omega), Char.ofNat_toNat, List.length_nil]
  · refine ⟨_, [_], rfl, ?_⟩
    have hcode : (c.toNat / 64 % 32 + 192 - 0xc0) * 64 + c.toNat % 64 = c.toNat := by omega
    have hread : wellFormed? c.toNat 0x80 = some c := wellFormed?_toNat (by omega)
    unfold leading?
    dsimp only [List.cons_append]
    rw [toNat_ofNat_byte (by omega), if_neg (by omega), if_neg (by omega),
      if_pos (by omega)]
    simp only [continuation?_ofNat, Option.bind_eq_bind, Option.bind_some, hcode, hread]
    rfl
  · refine ⟨_, [_, _], rfl, ?_⟩
    have hcode : ((c.toNat / 4096 % 16 + 224 - 0xe0) * 64 + c.toNat / 64 % 64) * 64
        + c.toNat % 64 = c.toNat := by omega
    have hread : wellFormed? c.toNat 0x800 = some c := wellFormed?_toNat (by omega)
    unfold leading?
    dsimp only [List.cons_append]
    rw [toNat_ofNat_byte (by omega), if_neg (by omega), if_neg (by omega),
      if_neg (by omega), if_pos (by omega)]
    simp only [continuation?_ofNat, Option.bind_eq_bind, Option.bind_some, hcode, hread]
    rfl
  · refine ⟨_, [_, _, _], rfl, ?_⟩
    have hcode : (((c.toNat / 262144 % 8 + 240 - 0xf0) * 64 + c.toNat / 4096 % 64) * 64
        + c.toNat / 64 % 64) * 64 + c.toNat % 64 = c.toNat := by omega
    have hread : wellFormed? c.toNat 0x10000 = some c := wellFormed?_toNat (by omega)
    unfold leading?
    dsimp only [List.cons_append]
    rw [toNat_ofNat_byte (by omega), if_neg (by omega), if_neg (by omega),
      if_neg (by omega), if_neg (by omega), if_pos (by omega)]
    simp only [continuation?_ofNat, Option.bind_eq_bind, Option.bind_some, hcode, hread]
    rfl

/-- Bytes of a character that was read already are passed over. -/
theorem decodeFrom_append (tail rest : List UInt8) :
    decodeFrom tail.length (tail ++ rest) = decode rest := by
  induction tail with
  | nil => rfl
  | cons b tail ih => exact ih

/-- A character is read back from its bytes, whatever stands behind them. -/
theorem decode_encode_cons (c : Char) (rest : List UInt8) :
    decode (String.utf8EncodeChar c ++ rest) = c :: decode rest := by
  obtain ⟨b, tail, hbytes, hread⟩ := leading?_encode c rest
  rw [hbytes, List.cons_append, decode, decodeFrom, hread]
  exact congrArg (c :: ·) (decodeFrom_append tail rest)

/-- A text is read back from its bytes. -/
theorem decode_encode (cs : List Char) : decode (encode cs) = cs := by
  induction cs with
  | nil => rfl
  | cons c cs ih =>
      rw [encode, List.flatMap_cons, decode_encode_cons]
      exact congrArg (c :: ·) ih

/-! ### Bytes that are no text -/

/-- The greater a character, the more bytes it takes. -/
theorem lt_utf8Size (c : Char) :
    (0x80 ≤ c.toNat → 1 < c.utf8Size) ∧ (0x800 ≤ c.toNat → 2 < c.utf8Size) ∧
      (0x10000 ≤ c.toNat → 3 < c.utf8Size) := by
  unfold Char.utf8Size
  grind [Char.toNat, UInt32.le_iff_toNat_le]

/-- A form that is read is not too long for its character. -/
theorem le_toNat_of_wellFormed? (h : wellFormed? code least = some c) : least ≤ c.toNat := by
  unfold wellFormed? at h
  split at h
  · next hcode =>
      obtain ⟨hleast, hvalid⟩ : least ≤ code ∧ code.isValidChar := by simpa using hcode
      have htoNat : (Char.ofNat code).toNat = code := by
        rw [Char.ofNat, dif_pos hvalid]
        rfl
      cases h
      exact htoNat.symm ▸ hleast
  · cases h

/-- A character that is read is its byte, or it is read from a byte that is not ASCII and one, two
or three continuing bytes, in a form that is not too long for it. -/
theorem leading?_forms (h : leading? b rest = some (c, more)) :
    b.toNat < 0x80 ∧ c = Char.ofNat b.toNat ∧ more = 0 ∨
      0x80 ≤ b.toNat ∧ (∀ d ∈ rest.take more, (continuation? d).isSome) ∧
        (more = 1 ∧ 0x80 ≤ c.toNat ∨ more = 2 ∧ 0x800 ≤ c.toNat ∨
          more = 3 ∧ 0x10000 ≤ c.toNat) := by
  unfold leading? at h
  dsimp only at h
  split_ifs at h with hone hcontinues htwo hthree hfour
  · cases h
    exact .inl ⟨hone, rfl, rfl⟩
  · split at h
    · simp only [Option.bind_eq_bind, Option.bind_eq_some_iff, Option.pure_def, Option.some.injEq,
        Prod.mk.injEq] at h
      obtain ⟨_, hd, _, hread, rfl, rfl⟩ := h
      exact .inr ⟨Nat.le_of_not_lt hone, by simp [hd],
        .inl ⟨rfl, le_toNat_of_wellFormed? hread⟩⟩
    · cases h
  · split at h
    · simp only [Option.bind_eq_bind, Option.bind_eq_some_iff, Option.pure_def, Option.some.injEq,
        Prod.mk.injEq] at h
      obtain ⟨_, hd, _, hd', _, hread, rfl, rfl⟩ := h
      exact .inr ⟨Nat.le_of_not_lt hone, by simp [hd, hd'],
        .inr (.inl ⟨rfl, le_toNat_of_wellFormed? hread⟩)⟩
    · cases h
  · split at h
    · simp only [Option.bind_eq_bind, Option.bind_eq_some_iff, Option.pure_def, Option.some.injEq,
        Prod.mk.injEq] at h
      obtain ⟨_, hd, _, hd', _, hd'', _, hread, rfl, rfl⟩ := h
      exact .inr ⟨Nat.le_of_not_lt hone, by simp [hd, hd', hd''],
        .inr (.inr ⟨rfl, le_toNat_of_wellFormed? hread⟩)⟩
    · cases h

/-- A character that is read takes as many bytes as it is read from. -/
theorem lt_utf8Size_of_leading? (h : leading? b rest = some (c, more)) : more < c.utf8Size := by
  obtain ⟨hone, htwo, hthree⟩ := lt_utf8Size c
  rcases leading?_forms h with ⟨-, -, rfl⟩ | ⟨-, -, ⟨rfl, hc⟩ | ⟨rfl, hc⟩ | ⟨rfl, hc⟩⟩
  · exact Char.utf8Size_pos c
  · exact hone hc
  · exact htwo hc
  · exact hthree hc

/-- Reading never comes out shorter: a byte that belongs to no character is read as a character
that takes more. -/
theorem length_le_encode_decodeFrom (skip : Nat) (bytes : List UInt8) :
    bytes.length ≤ skip + (encode (decodeFrom skip bytes)).length := by
  induction skip, bytes using decodeFrom.induct with
  | case1 skip => exact Nat.zero_le _
  | case2 b rest skip ih =>
      rw [decodeFrom, List.length_cons]
      omega
  | case3 b rest c more hlead ih =>
      have hmore := lt_utf8Size_of_leading? hlead
      rw [decodeFrom, hlead, length_encode_cons, List.length_cons]
      omega
  | case4 b rest hlead ih =>
      have hpos := Char.utf8Size_pos replacement
      rw [decodeFrom, hlead, length_encode_cons, List.length_cons]
      omega

/-- Bytes that are read take at least as many bytes when they are written again. -/
theorem length_le_encode_decode (bytes : List UInt8) :
    bytes.length ≤ (encode (decode bytes)).length :=
  Nat.zero_add (encode (decode bytes)).length ▸ length_le_encode_decodeFrom 0 bytes

end TagScript.Text
