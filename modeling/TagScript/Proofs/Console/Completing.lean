import TagScript.Proofs.Console.Changes
import TagScript.Proofs.Console.Tags

/-!
# `TagScript.Proofs.Console.Completing`: completions of the word at the cursor

After a character is typed, the completions are computed anew, and the bounds of the word that
they complete are stored with them. In the characters of the line the word is a longest stretch
without a boundary, the completions are those that are offered for it, and a step through them puts
one in its place and leaves the rest of the line alone (`Screen.Completes`).

Which word it is depends on how the cursor is counted. The field counts it in characters and the
word is looked for at the byte of that number. As long as the characters before the cursor are
ASCII this is the same place, and the word is the one at the cursor. With other characters before
it, the place is too far to the left (`typed_completes_otherWord`).

* `Screen.WordIs`: which part of the line the bounds stand for.
* `typed_completes`: what the completions are for after a character is typed.
-/

set_option autoImplicit false

namespace TagScript.Console

open Text

namespace Screen

variable {s : Screen} {before word after : List Char} {text : String} {forward : Bool}

/-! ### The word between the bounds -/

/-- The bounds stand for a part of the line. -/
structure WordIs (s : Screen) (before word after : List Char) : Prop where
  value : s.field.value = before ++ word ++ after
  start : s.wordStart = (encode before).length
  stop : s.wordEnd = (encode (before ++ word)).length

/-- The bytes of the line around its word. -/
theorem WordIs.bytes (h : s.WordIs before word after) :
    s.field.bytes.take s.wordStart = encode before ∧
      s.field.bytes.drop s.wordEnd = encode after ∧
      slice s.field.bytes s.wordStart s.wordEnd = encode word := by
  have hbytes : s.field.bytes = encode before ++ encode word ++ encode after := by
    rw [Field.bytes, h.value, encode_append, encode_append]
  have hstop : s.wordEnd = (encode before ++ encode word).length := by
    rw [h.stop, encode_append]
  rw [slice, hbytes, hstop, h.start, List.take_left, List.drop_left]
  exact ⟨by rw [List.append_assoc, List.take_left], rfl, List.drop_left⟩

/-- With a text in the place of the word, the rest of the line is the same. -/
theorem WordIs.lineWith (h : s.WordIs before word after) (text : String) :
    s.lineWith text = before ++ text.toList ++ after := by
  obtain ⟨htake, hdrop, -⟩ := h.bytes
  rw [Screen.lineWith, htake, hdrop, octets, ← encode_append, ← encode_append, decode_encode]

/-- A text that the field takes is put in the place of the word. -/
theorem WordIs.replaceWord (h : s.WordIs before word after)
    (hkeeps : Field.Keeps (before ++ text.toList ++ after)) :
    (s.replaceWord text).WordIs before text.toList after where
  value := by
    show (s.field.setValue (s.lineWith text)).value = _
    rw [h.lineWith, Field.value_setValue hkeeps]
  start := h.start
  stop := by
    show s.wordStart + text.utf8ByteSize = _
    rw [h.start, encode_append, List.length_append, ← length_octets]
    rfl

/-- The bounds of the word at the byte of the cursor's number stand for a part of the line that is
a word around this byte. -/
theorem exists_wordIs (hfield : s.field.Sound)
    (hbounds : wordBounds s.field.bytes s.field.cursor = (s.wordStart, s.wordEnd)) :
    ∃ before word after, s.WordIs before word after ∧ IsWord before word after ∧
      s.wordStart ≤ s.field.cursor ∧ s.field.cursor ≤ s.wordEnd := by
  obtain ⟨before, word, after, hvalue, hword, hends, hstart, hstop⟩ :=
    wordBounds_encode s.field.value s.field.cursor
  have hcursor : s.field.cursor ≤ (encode s.field.value).length :=
    Nat.le_trans hfield.cursor_le (length_le_length_encode _)
  rw [Nat.min_eq_left hcursor] at hstart hstop
  obtain ⟨hfrom, hto⟩ := Prod.mk.inj (hbounds.symm.trans hends)
  exact ⟨before, word, after, ⟨hvalue, hfrom, hto⟩, hword, hfrom ▸ hstart, hto ▸ hstop⟩

/-! ### The first step through the completions -/

/-- A step puts the completion that it goes to in the place of the word. -/
theorem field_cycle (hne : s.matched ≠ []) (forward : Bool) :
    (s.cycle forward).field = (s.replaceWord (s.offered forward)).field := by
  rcases hmatched : s.matched with _ | ⟨first, _ | ⟨second, rest⟩⟩
  · exact absurd hmatched hne
  · -- A single completion is the one that any step goes to.
    have hselected : (s.nextCycle forward).selected = 0 := by
      unfold nextCycle nextIndex
      rw [hmatched]
      cases s.cycling <;> cases forward <;> simp [Nat.mod_one]
    have hoffered : s.offered forward = first.text := by
      rw [offered, hselected, hmatched]
      rfl
    rw [hoffered]
    simp only [cycle, hmatched]
  · rw [cycle_of_several (by simp [hmatched])]
    rfl

/-- The first step forward goes to the first completion. -/
theorem offered_first {first : Match} (hidle : s.cycling = none)
    (hfirst : s.matched.head? = some first) : s.offered true = first.text := by
  have hzero : s.matched[0]? = some first := by rw [← List.head?_eq_getElem?, hfirst]
  simp only [offered, nextCycle, hidle, if_true, hzero]
  rfl

/-! ### After a character was typed -/

/-- What is offered for a word between two parts of a line. -/
def completions (functions : List String) (before word after : List Char) : List Match :=
  offers (String.ofList word) (candidatesAt functions before (word ++ after))

/-- The completions are for a word of the line. -/
structure Completes (s : Screen) (before word after : List Char) : Prop where
  bounds : s.WordIs before word after
  isWord : IsWord before word after
  /-- All that is offered for the word, but nothing more if this is the word itself. -/
  offered : s.matched
    = let found := completions s.session.functions before word after
      if found.map Match.text = [String.ofList word] then [] else found
  /-- Tab puts the first completion in the place of the word. The rest of the line is the same. -/
  replaced : ∀ m, s.matched.head? = some m → Field.Keeps (before ++ m.text.toList ++ after) →
    (s.press .tab).1.field.value = before ++ m.text.toList ++ after
  /-- Without completions, Tab does nothing. -/
  unchanged : s.matched = [] → (s.press .tab).1 = s

/-- With the completions computed anew, they are what is offered for the word. -/
theorem matched_refresh (h : s.refresh.WordIs before word after) :
    s.refresh.word = String.ofList word ∧
      s.refresh.matched = completions s.session.functions before word after := by
  obtain ⟨-, -, hslice⟩ := h.bytes
  have hword : s.refresh.word = String.ofList word := by
    rw [Screen.word, hslice, ofOctets, decode_encode]
  have hline : s.refresh.field.bytes = encode (before ++ (word ++ after)) := by
    rw [Field.bytes, h.value, List.append_assoc]
  have hmatched : s.refresh.matched = offers s.refresh.word
      (candidates s.session.functions s.refresh.field.bytes s.refresh.wordStart) := by
    dsimp only [refresh, Screen.word]
  refine ⟨hword, ?_⟩
  rw [hmatched, hword, hline, h.start, candidates_encode, completions]

/-- Bounds and completions that belong to one another make Tab complete the word. -/
theorem completes_of_offered (hword : s.WordIs before word after)
    (hboundary : IsWord before word after) (hidle : s.cycling = none)
    (hoffered : s.matched
      = let found := completions s.session.functions before word after
        if found.map Match.text = [String.ofList word] then [] else found) :
    s.Completes before word after where
  bounds := hword
  isWord := hboundary
  offered := hoffered
  replaced m hm hkeeps := by
    have hne : s.matched ≠ [] := by
      rintro hnil
      rw [hnil] at hm
      cases hm
    show (s.cycle true).field.value = _
    rw [field_cycle hne, offered_first hidle hm]
    exact (hword.replaceWord hkeeps).value
  unchanged hnone := by
    show s.cycle true = s
    unfold cycle
    rw [hnone]

/-- After the completions were computed anew outside of a run, they are those of a word around the
byte of the cursor's number. -/
theorem exists_completes (hfield : s.field.Sound) (hidle : s.refreshAndAccept.cycling = none) :
    ∃ before word after, s.refreshAndAccept.Completes before word after ∧
      s.refreshAndAccept.wordStart ≤ s.refreshAndAccept.field.cursor ∧
      s.refreshAndAccept.field.cursor ≤ s.refreshAndAccept.wordEnd := by
  have hrefreshed : s.refresh.field.Sound := by
    rw [field_refresh]
    exact hfield
  obtain ⟨before, word, after, hword, hboundary, haround⟩ :=
    exists_wordIs hrefreshed (bounds_refresh s)
  obtain ⟨htext, hmatched⟩ := matched_refresh hword
  have hsession : s.refresh.session = s.session := by dsimp only [refresh]
  refine ⟨before, word, after, ?_⟩
  -- The word is the only completion of itself, and the list is emptied, or it is left as it is.
  rcases refreshAndAccept_cases s with ⟨hown, heq⟩ | ⟨hother, heq⟩
  · rw [heq] at hidle ⊢
    rw [hmatched, htext] at hown
    refine ⟨completes_of_offered ⟨hword.value, hword.start, hword.stop⟩ hboundary hidle ?_, haround⟩
    dsimp only
    rw [hsession, if_pos hown]
  · rw [heq] at hidle ⊢
    rw [hmatched, htext] at hother
    refine ⟨completes_of_offered hword hboundary hidle ?_, haround⟩
    dsimp only
    rw [hsession, if_neg hother, hmatched]

/-- **Typing completes the word at the cursor.** A console has got any messages, then a character
is typed, and no run through completions is going on. The bounds are those of a word of the line,
and the completions, and what Tab makes of the line, are for this word. It is the word around the
byte of the cursor's number; with only ASCII before the cursor it is the word at the cursor. -/
theorem typed_completes (palette : Palette) (session : Session) (history : History)
    (ms : List Message) (c : Char) :
    let s := (((start palette session history).updateAll ms).press (.typed c)).1
    s.cycling = none →
      ∃ before word after, s.Completes before word after ∧
        s.wordStart ≤ s.field.cursor ∧ s.field.cursor ≤ s.wordEnd ∧
        ((∀ d ∈ s.field.value.take s.field.cursor, d.toNat < 0x80) →
          before.length ≤ s.field.cursor ∧ s.field.cursor ≤ (before ++ word).length) := by
  intro s hidle
  have hbefore := coherent_updateAll palette session history ms
  have hfield : s.field.Sound := (hbefore.update (.key (.typed c))).field
  -- The screen after the key is one with its completions computed anew.
  obtain ⟨t, ht, hline⟩ : ∃ t : Screen, t.field.Sound ∧ s = t.refreshAndAccept := by
    dsimp only [s, press, typeIn]
    refine ⟨_, ?_, rfl⟩
    dsimp only
    split_ifs <;> exact hbefore.field.insert [c]
  rw [hline] at hidle
  obtain ⟨before, word, after, hcompletes, hstart, hstop⟩ := exists_completes ht hidle
  rw [← hline] at hcompletes hstart hstop
  refine ⟨before, word, after, hcompletes, hstart, hstop, fun hascii => ?_⟩
  obtain ⟨hvalue, hfrom, hto⟩ := hcompletes.bounds
  rw [hfrom] at hstart
  rw [hto] at hstop
  exact around_of_ascii (hvalue ▸ hfield.cursor_le) (hvalue ▸ hascii) hstart
    (Nat.le_trans (Nat.min_le_left _ _) hstop)

/-- The name of a tag is typed at the start of a line, with a letter that is not ASCII behind it. -/
theorem typed_completes_cond :
    let s := ((emptyLine.updateAll [.key (.pasted "<é>"), .key (.editing .home),
      .key (.typed '<')]).press (.typed 'c')).1
    s.cycling = none ∧ s.field.text = "<c<é>" ∧
      ∃ before word after, s.Completes before word after ∧
        before.length ≤ s.field.cursor ∧ s.field.cursor ≤ (before ++ word).length := by
  intro s
  have hidle : s.cycling = none := by decide +kernel
  have hfront : s.field.value.take s.field.cursor = ['<', 'c'] := by decide +kernel
  obtain ⟨before, word, after, hcompletes, -, -, hascii⟩ :=
    typed_completes .plain (.start [] 10 Log.defaultLevel 0) (.new .memory)
      [.key (.pasted "<é>"), .key (.editing .home), .key (.typed '<')] 'c' hidle
  refine ⟨hidle, by decide +kernel, before, word, after, hcompletes, hascii fun d hd => ?_⟩
  have hmem : d ∈ ['<', 'c'] := hfront ▸ hd
  rcases List.mem_pair.mp hmem with rfl | rfl <;> decide

/-- Behind two letters of two bytes each, the bounds for the name of a tag are those of the word in
front of the tag, which is not where the cursor is. -/
theorem typed_completes_otherWord :
    let s := ((emptyLine.updateAll [.key (.typed 'é'), .key (.typed 'é'),
      .key (.typed '<')]).press (.typed 'd')).1
    s.cycling = none ∧ s.field.text = "éé<d" ∧ s.field.cursor = 4 ∧
      ¬ ∃ before word after, s.WordIs before word after ∧
        before.length ≤ s.field.cursor ∧ s.field.cursor ≤ (before ++ word).length := by
  intro s
  have hcursor : s.field.cursor = 4 := by decide +kernel
  refine ⟨by decide +kernel, by decide +kernel, hcursor, ?_⟩
  rintro ⟨before, word, after, hword, -, hstop⟩
  have hvalue : before ++ word ++ after = ['é', 'é', '<', 'd'] :=
    hword.value.symm.trans (by decide +kernel)
  -- A word that goes to the cursor goes to the end of the line, which has six bytes.
  have hall : before ++ word = ['é', 'é', '<', 'd'] := by
    have htake := congrArg (List.take (before ++ word).length) hvalue
    rw [List.take_left, List.take_of_length_le (by rw [hcursor] at hstop; exact hstop)] at htake
    exact htake
  have hend : s.wordEnd = 6 := by
    rw [hword.stop, hall]
    decide
  exact absurd hend (by decide +kernel)

end Screen

end TagScript.Console
