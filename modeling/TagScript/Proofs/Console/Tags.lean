import TagScript.Console.Completion
import TagScript.Proofs.Console.Words

/-!
# `TagScript.Proofs.Console.Tags`: what can stand at a place among the characters

The tag that is open at a place, and with it what can be typed there, are found in the bytes of the
line. Where the place is between two characters, both are a matter of the characters of the line
(`openTagAfter?`, `candidatesAt`): the bytes that open and close a tag are characters of their own,
and what is between them is read back as the characters that it was (`candidates_encode`).
-/

set_option autoImplicit false

namespace TagScript.Console

open Text

variable {cs : List Char} {d : Char}

/-! ### In characters -/

/-- The tag that is open behind some characters. -/
def openTagAfter? (before : List Char) : Option OpenTag :=
  let body := before.rtakeWhile (· != '<')
  if '<' ∉ before ∨ '>' ∈ body then none
  else
    let fields := (fieldsBy isBoundary body).map String.ofList
    let complete := body.getLast? = some ' ' ∨ body.getLast? = some '\t'
    some ⟨fields, if complete then fields.length else fields.length - 1⟩

/-- What can be typed between two parts of a line. -/
def candidatesAt (functions : List String) (before rest : List Char) : List String :=
  if before = [] ∧ rest.head? = some ':' then commandNames
  else
    match openTagAfter? before with
    | none => []
    | some tag =>
      if tag.words = 0 then tagNames
      else if tag.words = 1 ∧ tag.name = "do" then functions
      else []

/-! ### In bytes -/

/-- An ASCII character is among the bytes of a text when it is among its characters. -/
theorem any_isOctet_encode (hd : d.toNat < 0x80) (cs : List Char) :
    (encode cs).any (isOctet d) = decide (d ∈ cs) := by
  rw [Bool.eq_iff_iff, List.any_eq_true, decide_eq_true_eq]
  constructor
  · rintro ⟨b, hb, hoctet⟩
    obtain ⟨c, hc, hb⟩ := List.mem_flatMap.mp hb
    rw [isOctet_of_mem hd hb, beq_iff_eq] at hoctet
    exact hoctet ▸ hc
  · intro hmem
    obtain ⟨b, hb⟩ := List.exists_mem_of_ne_nil _ (String.utf8EncodeChar_ne_nil (c := d))
    exact ⟨b, List.mem_flatMap.mpr ⟨d, hmem, hb⟩, by rw [isOctet_of_mem hd hb, beq_self_eq_true]⟩

/-- The first byte belongs to the first character. -/
theorem head?_encode (hd : d.toNat < 0x80) (cs : List Char) :
    (encode cs).head?.any (isOctet d) = decide (cs.head? = some d) := by
  cases cs with
  | nil => rfl
  | cons c cs =>
      obtain ⟨b, tail, hbytes⟩ := List.exists_cons_of_ne_nil (String.utf8EncodeChar_ne_nil (c := c))
      have hb : isOctet d b = decide (c = d) := isOctet_of_mem hd (by simp [hbytes])
      simp [encode, hbytes, hb]

/-- The last byte belongs to the last character. -/
theorem getLast?_encode (hd : d.toNat < 0x80) (cs : List Char) :
    (encode cs).getLast?.any (isOctet d) = decide (cs.getLast? = some d) := by
  cases cs using List.reverseRecOn with
  | nil => rfl
  | append_singleton cs c =>
      have hne := String.utf8EncodeChar_ne_nil (c := c)
      have hb : isOctet d ((String.utf8EncodeChar c).getLast hne) = decide (c = d) :=
        isOctet_of_mem hd (List.getLast_mem hne)
      have hlast : (encode (cs ++ [c])).getLast? = some ((String.utf8EncodeChar c).getLast hne) := by
        rw [encode_append, List.getLast?_append_of_ne_nil _ (by simp [encode])]
        simp [encode, List.getLast?_eq_some_getLast hne]
      simp [hlast, hb]

/-- The bytes behind the last beginning of a tag are those of the characters behind it. -/
theorem afterLastOpen?_encode (cs : List Char) :
    afterLastOpen? (encode cs)
      = if '<' ∉ cs then none else some (encode (cs.rtakeWhile (· != '<'))) := by
  have hkind : ∀ c, ∀ b ∈ String.utf8EncodeChar c, (!isOctet '<' b) = (c != '<') := by
    intro c b hb
    rw [isOctet_of_mem (by decide) hb]
    rfl
  have hbody : ((encode cs).reverse.takeWhile fun b => !isOctet '<' b).reverse
      = encode (cs.rtakeWhile (· != '<')) := rtakeWhile_encode hkind cs
  have hlength := congrArg List.length hbody
  rw [List.length_reverse] at hlength
  simp only [afterLastOpen?, hlength, hbody]
  by_cases hopen : '<' ∈ cs
  · -- What is in front of the last beginning, and the beginning itself, are some bytes more.
    have hsplit : cs.rdropWhile (· != '<') ++ cs.rtakeWhile (· != '<') = cs :=
      List.rdropWhile_append_rtakeWhile
    have hfront : 0 < (encode (cs.rdropWhile (· != '<'))).length := by
      refine Nat.lt_of_lt_of_le ?_ (length_le_length_encode _)
      rw [List.length_pos_iff, ne_eq, List.rdropWhile_eq_nil_iff]
      intro hall
      simpa using hall '<' hopen
    have hshort : (encode (cs.rtakeWhile (· != '<'))).length < (encode cs).length := by
      conv => rhs; rw [← hsplit]
      rw [encode_append, List.length_append]
      omega
    rw [if_pos hshort, if_neg (not_not.mpr hopen)]
  · have hall : cs.rtakeWhile (· != '<') = cs := by
      rw [List.rtakeWhile_eq_self_iff]
      intro c hc
      simpa using ne_of_mem_of_not_mem hc hopen
    rw [hall, if_neg (Nat.lt_irrefl _), if_pos hopen]

/-- The tag that is open at a place between two characters. -/
theorem openTag?_encode (before rest : List Char) :
    openTag? (encode (before ++ rest)) (encode before).length = openTagAfter? before := by
  rw [openTag?, encode_append, List.take_left, afterLastOpen?_encode, openTagAfter?]
  by_cases hopen : '<' ∈ before
  · have hspace := getLast?_encode (d := ' ') (by decide) (before.rtakeWhile (· != '<'))
    have htab := getLast?_encode (d := '\t') (by decide) (before.rtakeWhile (· != '<'))
    simp only [hopen, not_true_eq_false, if_false, false_or, decode_encode,
      any_isOctet_encode (d := '>') (by decide), decide_eq_true_eq]
    cases hlast : (encode (before.rtakeWhile (· != '<'))).getLast? with
    | none =>
        simp only [hlast, Option.any_none, Bool.false_eq, decide_eq_false_iff_not] at hspace htab
        simp [hspace, htab]
    | some b =>
        simp only [hlast, Option.any_some] at hspace htab
        simp [hspace, htab]
  · simp only [hopen, not_false_eq_true, if_true, true_or]

/-- What can be typed at a place between two characters. -/
theorem candidates_encode (functions : List String) (before rest : List Char) :
    candidates functions (encode (before ++ rest)) (encode before).length
      = candidatesAt functions before rest := by
  have hcommand : ((encode before).length = 0 ∧
        (encode (before ++ rest)).head?.any (isOctet ':') = true)
      ↔ (before = [] ∧ rest.head? = some ':') := by
    rw [head?_encode (by decide), decide_eq_true_eq]
    cases before with
    | nil => simp [encode]
    | cons c cs =>
        have hpos := length_le_length_encode (c :: cs)
        rw [List.length_cons] at hpos
        exact iff_of_false (by omega) (by simp)
  rw [candidates, openTag?_encode, candidatesAt]
  cases openTagAfter? before <;> simp only [Bool.and_eq_true, decide_eq_true_eq, hcommand]

end TagScript.Console
