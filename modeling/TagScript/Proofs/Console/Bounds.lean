import TagScript.Console.Screen
import TagScript.Proofs.Text.Octets

/-!
# `TagScript.Proofs.Console.Bounds`: the word that a completion replaces

The screen keeps the byte positions of the word at the cursor together with its completions, from
one message to the next. A step through the completions cuts the line at these positions, so they
have to lie in it (`Screen.InBounds`) whenever there are completions to step through.

Most messages compute the positions anew from the line, drop the completions, or leave both
alone. Only a step through the completions moves the end of the word by arithmetic: it puts it
behind the text that it has just put in. That is right as long as the field takes the line as it
is (`Screen.Takes`): no more characters than it can hold, and none that it drops. On a screen that
was reached by such steps and any other messages, the positions lie in the line
(`Reached.inBounds`).

A line that is full already has no room for a completion. The field cuts the line, the end of the
word is then behind the end of the line, and the next step would cut the line there
(`fullLine_overruns`).
-/

set_option autoImplicit false

namespace TagScript

open Text

namespace Console

variable {c : Char} {cs : List Char}

/-! ### What the field takes -/

/-- What a field makes of a character is as long in UTF-8 as the character. -/
theorem utf8Size_cleanChar {d : Char} (h : cleanChar c = some d) : d.utf8Size = c.utf8Size := by
  unfold cleanChar at h
  split_ifs at h with hreplacement hspace hcontrol
  · cases h
    simp only [Bool.or_eq_true, decide_eq_true_eq] at hspace
    rcases hspace with (rfl | rfl) | rfl <;> decide
  · cases h
    rfl

/-- Characters none of which the field drops stay as many, in characters and in bytes. -/
theorem length_clean (h : ∀ c ∈ cs, (cleanChar c).isSome) :
    (clean cs).length = cs.length ∧ (encode (clean cs)).length = (encode cs).length := by
  induction cs with
  | nil => exact ⟨rfl, rfl⟩
  | cons c cs ih =>
      obtain ⟨hc, hrest⟩ := List.forall_mem_cons.mp h
      obtain ⟨d, hd⟩ := Option.isSome_iff_exists.mp hc
      obtain ⟨hlength, hbytes⟩ := ih hrest
      have hclean : clean (c :: cs) = d :: clean cs := List.filterMap_cons_some hd
      rw [hclean, List.length_cons, List.length_cons, hlength, length_encode_cons,
        length_encode_cons, hbytes, utf8Size_cleanChar hd]
      exact ⟨rfl, rfl⟩

/-! ### The word at the cursor -/

/-- A word lies in the line. -/
theorem wordBounds_le (input : List UInt8) (cursor : Nat) :
    (wordBounds input cursor).1 ≤ (wordBounds input cursor).2 ∧
      (wordBounds input cursor).2 ≤ input.length := by
  have hafter := (List.takeWhile_prefix (fun b => !isBoundaryByte b)
    (l := input.drop cursor)).length_le
  rw [List.length_drop] at hafter
  simp only [wordBounds, List.length_take]
  omega

namespace Screen

variable {s s' : Screen} {text : String} {forward : Bool}

/-- As long as there are completions, the word that they complete lies in the line. -/
def InBounds (s : Screen) : Prop :=
  s.matched ≠ [] → s.wordStart ≤ s.wordEnd ∧ s.wordEnd ≤ s.field.bytes.length

/-- Without completions there is nothing to show. -/
theorem inBounds_of_matched (h : s.matched = []) : s.InBounds := fun hne => absurd h hne

/-- Whether the word lies in the line depends on the line, the word and the completions only. -/
theorem InBounds.congr (h : s.InBounds) (hfield : s'.field = s.field)
    (hmatched : s'.matched = s.matched) (hstart : s'.wordStart = s.wordStart)
    (hend : s'.wordEnd = s.wordEnd) : s'.InBounds := by
  unfold InBounds at *
  rwa [hfield, hmatched, hstart, hend]

/-- Computing the completions anew puts the word in the line. -/
theorem inBounds_refresh (s : Screen) : s.refresh.InBounds := by
  intro _
  dsimp only [refresh]
  exact wordBounds_le s.field.bytes s.field.cursor

/-- So it does when the word is accepted at once. -/
theorem inBounds_refreshAndAccept (s : Screen) : s.refreshAndAccept.InBounds := by
  unfold refreshAndAccept
  dsimp only
  split
  · split
    · exact inBounds_of_matched rfl
    · exact inBounds_refresh s
  · exact inBounds_refresh s

/-- A move through the history keeps the word in the line. -/
theorem inBounds_historyMove (h : s.InBounds) (forward : Bool) :
    (s.historyMove forward).InBounds := by
  unfold historyMove
  dsimp only
  split
  · exact h
  · split <;> exact inBounds_refresh _

/-! ### A step through the completions -/

/-- The line with a text in the place of the word. -/
def lineWith (s : Screen) (text : String) : List Char :=
  decode (s.field.bytes.take s.wordStart ++ octets text ++ s.field.bytes.drop s.wordEnd)

/-- The field takes the line with a text in the place of the word as it is. -/
structure Takes (s : Screen) (text : String) : Prop where
  /-- No character is dropped. -/
  kept : ∀ c ∈ s.lineWith text, (cleanChar c).isSome
  /-- There is room for all of them. -/
  length_le : (s.lineWith text).length ≤ fieldLimit

/-- The completion that a step goes to. -/
def offered (s : Screen) (forward : Bool) : String :=
  (s.matched[(s.nextCycle forward).selected]?.map Match.text).getD ""

/-- A text that the field takes is in the line, so that the word can end behind it. -/
theorem inBounds_replaceWord (h : s.InBounds) (ht : s.Takes text) :
    (s.replaceWord text).InBounds := by
  intro hne
  obtain ⟨hstart, hend⟩ := h hne
  obtain ⟨hlength, hbytes⟩ := length_clean ht.kept
  have hvalue : (s.replaceWord text).field.bytes = encode (clean (s.lineWith text)) := by
    have htake : (clean (s.lineWith text)).take fieldLimit = clean (s.lineWith text) :=
      List.take_of_length_le (hlength ▸ ht.length_le)
    exact congrArg encode htake
  have hline := length_le_encode_decode
    (s.field.bytes.take s.wordStart ++ octets text ++ s.field.bytes.drop s.wordEnd)
  rw [List.length_append, List.length_append, List.length_take, length_octets] at hline
  rw [hvalue, hbytes]
  change s.wordStart ≤ s.wordStart + text.utf8ByteSize ∧
    s.wordStart + text.utf8ByteSize ≤ (encode (s.lineWith text)).length
  unfold lineWith
  omega

/-- A step through the completions keeps the word in the line if the field takes what it puts in. -/
theorem inBounds_cycle (h : s.InBounds)
    (ht : 2 ≤ s.matched.length → s.Takes (s.offered forward)) : (s.cycle forward).InBounds := by
  unfold cycle
  split
  · exact h
  · exact inBounds_of_matched rfl
  · next hnil hone =>
      have htwo : 2 ≤ s.matched.length := by
        rcases hmatched : s.matched with _ | ⟨m, _ | ⟨m', rest⟩⟩
        · exact absurd hmatched hnil
        · exact absurd hmatched (hone m)
        · simp
      exact inBounds_replaceWord (h.congr rfl rfl rfl rfl) ⟨(ht htwo).kept, (ht htwo).length_le⟩

/-! ### Submitting a line -/

/-- Remembering a line keeps the word where it is. -/
theorem inBounds_remember (h : s.InBounds) (line : String) : (s.remember line).InBounds := by
  dsimp only [remember, leaveHistory]
  exact h.congr rfl rfl rfl rfl

/-- Evaluating a source keeps the word where it is. -/
theorem inBounds_evaluate (h : s.InBounds) (source : String) :
    (s.evaluate source).1.InBounds := by
  unfold evaluate
  rcases s.session.eval false source with ⟨reply, session⟩
  exact h.congr rfl rfl rfl rfl

/-- Carrying out a command keeps the word where it is. -/
theorem inBounds_command (h : s.InBounds) (input : String) : (s.command input).1.InBounds := by
  unfold command
  dsimp only
  split
  all_goals first
    | exact h.congr rfl rfl rfl rfl
    | split <;> exact h

/-- Submitting a line keeps the word in the line, which is left without completions. -/
theorem inBounds_execute (h : s.InBounds) : s.execute.1.InBounds := by
  unfold execute
  dsimp only
  split
  · exact h
  · split
    · exact inBounds_command (inBounds_of_matched rfl) _
    · exact inBounds_evaluate (inBounds_of_matched rfl) _

/-! ### All messages -/

/-- A step through several completions puts in a text that the field takes. -/
def Accepts (s : Screen) : Message → Prop
  | .key .tab => 2 ≤ s.matched.length → s.Takes (s.offered true)
  | .key .shiftTab => 2 ≤ s.matched.length → s.Takes (s.offered false)
  | _ => True

/-- Every key keeps the word in the line, a step under the condition that the field takes what it
puts in. -/
theorem inBounds_press (h : s.InBounds) (k : Key) (hk : s.Accepts (.key k)) :
    (s.press k).1.InBounds := by
  cases k with
  | enter =>
      rw [press]
      split
      · exact inBounds_execute h
      · exact inBounds_refreshAndAccept _
  | tab => exact inBounds_cycle h hk
  | shiftTab => exact inBounds_cycle h hk
  | up => exact inBounds_historyMove h false
  | down => exact inBounds_historyMove h true
  | esc =>
      rw [press]
      split
      · exact h
      · exact inBounds_refresh _
  | ctrlC =>
      rw [press]
      split
      · exact h.congr rfl rfl rfl rfl
      · exact inBounds_refresh _
  | ctrlD =>
      rw [press]
      split
      · exact h.congr rfl rfl rfl rfl
      · exact h
  -- All keys from here on end in a new look at the line, which finds bounds that are in it.
  | editing key => exact inBounds_refresh _
  | altEditing key => exact inBounds_refreshAndAccept _
  | typed c =>
      dsimp only [press, typeIn]
      exact inBounds_refreshAndAccept _
  | pasted text =>
      dsimp only [press, typeIn]
      exact inBounds_refreshAndAccept _

/-- And so does every message. -/
theorem inBounds_update (h : s.InBounds) (m : Message) (hm : s.Accepts m) :
    (s.update m).1.InBounds := by
  cases m with
  | key k => exact inBounds_press h k hm
  | edited source =>
      rw [update]
      exact inBounds_evaluate (inBounds_remember h _) source
  | resize width => exact h.congr rfl rfl rfl rfl
  | editCancelled | editDeclined | editFailed reason | other => exact h

/-- The screens that messages lead to from a screen, with steps through the completions only where
the field takes what they put in. -/
inductive Reached (first : Screen) : Screen → Prop
  | first : Reached first first
  | update {s : Screen} (m : Message) : Reached first s → s.Accepts m →
      Reached first (s.update m).1

/-- The screen after messages one after another. -/
def updateAll (s : Screen) (ms : List Message) : Screen :=
  ms.foldl (fun s m => (s.update m).1) s

/-- **Completions stay in the line.** A console begins with an empty line. Messages lead to a
screen, and the field took every completion that was put in on the way as it is. If there are
completions for the word at the cursor, the word lies in the line. -/
theorem Reached.inBounds {palette : Palette} {session : Session} {history : History}
    (hr : Reached (start palette session history) s) : s.InBounds := by
  induction hr with
  | first => exact inBounds_of_matched rfl
  | update m _ hm ih => exact inBounds_update ih m hm

/-- The console that the following screens begin with. -/
def emptyLine : Screen := start .plain (.start [] 10 Log.defaultLevel 0) (.new .memory)

/-- Two steps through the tags. -/
theorem Reached.inBounds_defn :
    let s := emptyLine.updateAll [.key (.pasted "<"), .key .tab, .key .tab]
    Reached emptyLine s ∧ s.field.text = "<defn" ∧ s.matched.length = 9 ∧
      s.wordStart ≤ s.wordEnd ∧ s.wordEnd ≤ s.field.bytes.length := by
  intro s
  have hr : Reached emptyLine s := by
    refine .update (.key .tab) (.update (.key .tab) (.update (.key (.pasted "<")) .first ?_) ?_) ?_
    · trivial
    · exact fun _ => ⟨List.all_eq_true.mp (by decide), by decide⟩
    · exact fun _ => ⟨List.all_eq_true.mp (by decide), by decide⟩
  have hcount : s.matched.length = 9 := by decide
  have hne : s.matched ≠ [] := List.ne_nil_of_length_pos (by omega)
  exact ⟨hr, by decide, hcount, hr.inBounds hne⟩

/-! ### A line that is full -/

/-- A line that begins a tag behind some text. -/
def tagLine (n : Nat) : List Char := List.replicate n 'x' ++ ['<']

section

variable {n : Nat}

/-- The line has one character more than the text in front of the tag. -/
theorem length_tagLine (n : Nat) : (tagLine n).length = n + 1 := by
  simp [tagLine]

/-- The field takes all its characters as they are. -/
theorem clean_tagLine (n : Nat) : clean (tagLine n) = tagLine n := by
  have hx : cleanChar 'x' = some 'x' := by decide
  have hopen : cleanChar '<' = some '<' := by decide
  simp [tagLine, clean, hx, hopen]

/-- The bytes of the line, and what is before and behind its end. -/
theorem encode_tagLine (n : Nat) :
    encode (tagLine n) = List.replicate n 120 ++ [60] ∧
      (encode (tagLine n)).take (n + 1) = encode (tagLine n) ∧
      (encode (tagLine n)).drop (n + 1) = [] := by
  have hx : String.utf8EncodeChar 'x' = [120] := by decide
  have hopen : String.utf8EncodeChar '<' = [60] := by decide
  have hbytes : encode (tagLine n) = List.replicate n 120 ++ [60] := by
    simp [tagLine, encode, List.flatMap_replicate, hx, hopen]
  have hlength : (encode (tagLine n)).length = n + 1 := by simp [hbytes]
  exact ⟨hbytes, List.take_of_length_le (Nat.le_of_eq hlength),
    List.drop_of_length_le (Nat.le_of_eq hlength)⟩

/-- An empty field takes as much as it can hold. -/
theorem insert_tagLine (hn : n < fieldLimit) :
    Field.empty.insert (tagLine n) = ⟨tagLine n, n + 1⟩ := by
  have htake : (tagLine n).take fieldLimit = tagLine n :=
    List.take_of_length_le (by rw [length_tagLine]; exact hn)
  have hroom : fieldLimit ≠ 0 := by decide
  simp [Field.insert, Field.replace, Field.empty, clean_tagLine, htake, length_tagLine, hroom]

/-- The word behind the text is empty, and all tags can follow. -/
theorem refresh_tagLine (hs : s.field = ⟨tagLine n, n + 1⟩) :
    s.refresh
      = { s with
          matched := tagNames.map Match.ofText
          wordStart := n + 1
          wordEnd := n + 1 } := by
  obtain ⟨hbytes, htake, hdrop⟩ := encode_tagLine n
  -- The cursor is behind the opening bracket at the end of the line, so no word is around it.
  have hbounds : wordBounds (encode (tagLine n)) (n + 1) = (n + 1, n + 1) := by
    have hopen : isBoundaryByte 60 := by decide
    rw [wordBounds, htake, hdrop, hbytes]
    simp [hopen]
  have htag : openTag? (encode (tagLine n)) (n + 1) = some ⟨[], 0⟩ := by
    have hlast : isOctet '<' 60 := by decide
    have hbody : afterLastOpen? (encode (tagLine n)) = some [] := by
      simp [afterLastOpen?, hbytes, hlast]
    rw [openTag?, htake, hbody]
    rfl
  have hword : offers (ofOctets (slice (encode (tagLine n)) (n + 1) (n + 1))) tagNames
      = tagNames.map Match.ofText := by
    rw [slice, htake, hdrop]
    rfl
  have hcandidates : candidates s.session.functions (encode (tagLine n)) (n + 1) = tagNames := by
    simp [candidates, htag]
  simp only [refresh, Field.bytes, hs, hbounds, hcandidates, hword]

/-- Pasted into an empty line, it has all tags for completions, and the empty word at its end. -/
theorem typeIn_tagLine (hs : s.field = .empty) (hn : n < fieldLimit) :
    s.typeIn (tagLine n)
      = { s.leaveHistory with
          field := ⟨tagLine n, n + 1⟩
          matched := tagNames.map Match.ofText
          wordStart := n + 1
          wordEnd := n + 1 } := by
  have hinsert : s.field.insert (tagLine n) = ⟨tagLine n, n + 1⟩ := by rw [hs, insert_tagLine hn]
  rw [typeIn, hinsert, refreshAndAccept, refresh_tagLine rfl]
  rfl

/-- No room is left for the first of the tags. -/
theorem setValue_tagLine (hn : n + 1 = fieldLimit) (f : Field) :
    (f.setValue (tagLine n ++ "cond".toList)).value = tagLine n := by
  have hcond : clean "cond".toList = "cond".toList := by decide
  have hclean : clean (tagLine n ++ "cond".toList) = tagLine n ++ "cond".toList := by
    rw [clean, List.filterMap_append]
    exact congrArg₂ _ (clean_tagLine n) hcond
  rw [Field.setValue, hclean]
  exact List.take_left' ((length_tagLine n).trans hn)

/-- The first step through the tags. -/
theorem cycle_tagNames (hmatched : s.matched = tagNames.map Match.ofText)
    (hidle : s.cycling = none) :
    (s.cycle true).field.value = (s.field.setValue (s.lineWith "cond")).value ∧
      (s.cycle true).matched = s.matched ∧ (s.cycle true).wordStart = s.wordStart ∧
      (s.cycle true).wordEnd = s.wordStart + "cond".utf8ByteSize := by
  have hnext : s.nextCycle true = ⟨0, s.field.value, s.field.cursor⟩ := by
    rw [nextCycle, hidle]
    rfl
  have hcycle : s.cycle true
      = { s with cycling := some ⟨0, s.field.value, s.field.cursor⟩ }.replaceWord "cond" := by
    unfold cycle
    rw [hnext, hmatched]
    rfl
  rw [hcycle]
  exact ⟨rfl, rfl, rfl, rfl⟩

/-- With a tag in the place of the word, the line is longer by the name of the tag. -/
theorem lineWith_tagLine (hfield : s.field = ⟨tagLine n, n + 1⟩) (hstart : s.wordStart = n + 1)
    (hend : s.wordEnd = n + 1) : s.lineWith "cond" = tagLine n ++ "cond".toList := by
  obtain ⟨_, htake, hdrop⟩ := encode_tagLine n
  rw [lineWith, Field.bytes, hfield, hstart, hend, htake, hdrop, List.append_nil, octets,
    ← encode_append, decode_encode]

/-- The word gets an end behind that of the line. -/
theorem cycle_tagLine (hn : n + 1 = fieldLimit) (hs : s.field = .empty) (hidle : s.cycling = none) :
    let s' := (s.typeIn (tagLine n)).cycle true
    s'.field.value = tagLine n ∧ s'.matched = tagNames.map Match.ofText ∧ s'.wordStart = n + 1 ∧
      s'.wordEnd = n + 1 + "cond".utf8ByteSize := by
  have htyped := typeIn_tagLine hs (Nat.lt_of_succ_le (Nat.le_of_eq hn))
  have hmatched := congrArg matched htyped
  have hstart := congrArg wordStart htyped
  obtain ⟨hvalue, hsame, hfrom, hto⟩ :=
    cycle_tagNames hmatched ((congrArg cycling htyped).trans hidle)
  have hline := lineWith_tagLine (congrArg field htyped) hstart (congrArg wordEnd htyped)
  refine ⟨?_, hsame.trans hmatched, hfrom.trans hstart, ?_⟩
  · rw [hvalue, hline, setValue_tagLine hn]
  · rw [hto, hstart]

end

/-- A pasted text and Tab are a step through the completions of the text. -/
theorem updateAll_pasted_tab (s : Screen) (text : String) :
    s.updateAll [.key (.pasted text), .key .tab] = (s.typeIn text.toList).cycle true := by
  simp only [updateAll, List.foldl_cons, List.foldl_nil, update, press]

/-- With a text of 4095 characters in front of it there is no room behind the beginning of a tag,
and a step through the tags puts the end of the word behind the end of the line. -/
theorem fullLine_overruns :
    let s := emptyLine.updateAll [.key (.pasted (String.ofList (tagLine 4095))), .key .tab]
    s.matched ≠ [] ∧ s.field.bytes.length = 4096 ∧ s.wordStart = 4096 ∧ s.wordEnd = 4100 := by
  obtain ⟨hvalue, hmatched, hstart, hend⟩ :=
    cycle_tagLine (s := emptyLine) (n := 4095) rfl rfl rfl
  have hsize : "cond".utf8ByteSize = 4 := by decide
  rw [hsize] at hend
  rw [updateAll_pasted_tab, String.toList_ofList]
  refine ⟨?_, ?_, hstart, hend⟩
  · rw [hmatched]
    exact List.cons_ne_nil _ _
  · rw [Field.bytes, hvalue, (encode_tagLine 4095).1]
    rw [List.length_append, List.length_replicate]
    rfl

end Screen

end Console

end TagScript
