import Mathlib.Data.String.Basic
import TagScript.Proofs.Text.Octets

/-!
# `TagScript.Proofs.Text.Order`: the order of texts and the order of their bytes

Texts are in the order of their characters: the first character in which two of them differ
decides. Their UTF-8 forms are in the order of their bytes. It is the same order, because of two
characters the greater has the greater bytes (`utf8EncodeChar_lt`), whatever follows them: a
longer form begins with a greater byte, and among forms of one length the first payload bits that
differ decide.
-/

set_option autoImplicit false

namespace TagScript.Text

variable {c d : Char} {cs ds : List Char} {m n : Nat}

/-- Bytes are in the order of their values. -/
theorem ofNat_lt_ofNat_iff (hm : m < 0x100) (hn : n < 0x100) :
    UInt8.ofNat m < UInt8.ofNat n ↔ m < n := by
  rw [UInt8.lt_iff_toNat_lt, toNat_ofNat_byte hm, toNat_ofNat_byte hn]

/-- Bytes are equal when their values are. -/
theorem ofNat_eq_ofNat_iff (hm : m < 0x100) (hn : n < 0x100) :
    UInt8.ofNat m = UInt8.ofNat n ↔ m = n := by
  rw [← UInt8.toNat_inj, toNat_ofNat_byte hm, toNat_ofNat_byte hn]

/-- Of two characters the greater has the greater bytes, whatever follows. -/
theorem utf8EncodeChar_lt (h : c < d) (xs ys : List UInt8) :
    String.utf8EncodeChar c ++ xs < String.utf8EncodeChar d ++ ys := by
  have hlt : c.toNat < d.toNat := UInt32.lt_iff_toNat_lt.mp h
  have hc := toNat_lt c
  have hd := toNat_lt d
  have htwo : ∀ n : Nat, n / 4096 = n / 64 / 64 := by omega
  have hthree : ∀ n : Nat, n / 262144 = n / 64 / 64 / 64 := by omega
  simp only [utf8EncodeChar_eq, htwo, hthree]
  -- One case for each pair of lengths. The greater character is not the shorter one, and where the
  -- lengths differ the first bytes do. Otherwise the bytes are the digits of the two numbers.
  split_ifs <;> first
    | (exfalso; omega)
    | (simp (disch := omega) only [List.cons_append, List.nil_append, List.cons_lt_cons_iff,
          ofNat_lt_ofNat_iff, ofNat_eq_ofNat_iff]
       omega)

/-- Characters in order have bytes in order. -/
theorem encode_lt_encode (h : cs < ds) : encode cs < encode ds := by
  induction cs generalizing ds with
  | nil =>
      cases ds with
      | nil => exact absurd h (List.not_lt_nil [])
      | cons d ds =>
          obtain ⟨b, tail, hbytes, -⟩ := leading?_encode d []
          rw [encode, encode, List.flatMap_cons, hbytes]
          exact List.nil_lt_cons b _
  | cons c cs ih =>
      cases ds with
      | nil => exact absurd h (List.not_lt_nil _)
      | cons d ds =>
          rw [encode, encode, List.flatMap_cons, List.flatMap_cons]
          rcases List.cons_lt_cons_iff.mp h with hlt | ⟨rfl, hrest⟩
          · exact utf8EncodeChar_lt hlt _ _
          · exact List.append_left_lt (ih hrest)

/-- Texts in order have UTF-8 forms in order. -/
theorem octets_lt_octets {s t : String} (h : s < t) : octets s < octets t :=
  encode_lt_encode (String.lt_iff_toList_lt.mp h)

end TagScript.Text
