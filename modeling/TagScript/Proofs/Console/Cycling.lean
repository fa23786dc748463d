import TagScript.Proofs.Console.Completing

/-!
# `TagScript.Proofs.Console.Cycling`: a run through the completions

Each step of a run puts a completion in the place of the one before it, whose end it finds at the
bounds that the step before left. So a run keeps three things (`Screen.Shows`): the completions are
those it began with, what stands between the bounds is the one whose number it notes, and the line
and cursor to go back to are those of the beginning. With them, the completion that is shown after
any steps is found by counting their directions modulo the number of completions, and Esc leaves no
trace of the run (`steps_show`).

A step does not look at what the field made of its completion. It goes wrong when the field does
not take it as it is: there has to be room for it, and there must be no character in it that the
field drops. Such characters are the control characters, and the one that stands for bytes without
meaning, which can be the name of a function (`steps_show_dropped`).
-/

set_option autoImplicit false

namespace TagScript.Console

open Text

/-! ### Numbers of completions -/

/-- What a step adds to the number of the completion. -/
def stepBy (forward : Bool) : Int := if forward then 1 else -1

/-- How many steps go forward more than back. -/
def netSteps (directions : List Bool) : Int := directions.count true - directions.count false

/-- The number of the completion that the first step goes to. -/
def firstIndex (count : Nat) (forward : Bool) : Nat := if forward then 0 else count - 1

/-- The number of the completion that is shown after a first step and more steps. -/
def shownIndex (count : Nat) (first : Bool) (rest : List Bool) : Nat :=
  ((firstIndex count first + netSteps rest) % (count : Int)).toNat

variable {count i : Nat} {forward : Bool}

/-- The first step counts for one, forward or back. -/
theorem netSteps_cons (forward : Bool) (rest : List Bool) :
    netSteps (forward :: rest) = stepBy forward + netSteps rest := by
  cases forward <;> simp [netSteps, stepBy] <;> omega

/-- The first step selects one of the completions. -/
theorem firstIndex_lt (hcount : 0 < count) (forward : Bool) : firstIndex count forward < count := by
  unfold firstIndex
  split_ifs <;> omega

/-- A step adds to the number modulo the number of completions. -/
theorem nextIndex_eq (hi : i < count) (forward : Bool) :
    (Screen.nextIndex forward count i : Int) = (i + stepBy forward) % count := by
  cases forward with
  | true =>
      simp only [Screen.nextIndex, stepBy, if_true]
      push_cast
      rfl
  | false =>
      have hcast : ((i + count - 1 : Nat) : Int) = i + -1 + count := by omega
      simp only [Screen.nextIndex, stepBy, Bool.false_eq_true, if_false]
      rw [Int.natCast_emod, hcast, Int.add_emod_right]

/-- Every further step selects one of the completions as well. -/
theorem nextIndex_lt (hcount : 0 < count) (forward : Bool) (i : Nat) :
    Screen.nextIndex forward count i < count := by
  unfold Screen.nextIndex
  split_ifs <;> exact Nat.mod_lt _ hcount

namespace Screen

variable {s t : Screen} {before word after : List Char}

/-! ### One step -/

/-- A run that began at `s` has led to `t`, and the completion of a number is shown between the
given parts of the line. -/
structure Shows (s t : Screen) (before after : List Char) (i : Nat) : Prop where
  matched : t.matched = s.matched
  cycling : t.cycling = some ⟨i, s.field.value, s.field.cursor⟩
  shown : ∃ m, s.matched[i]? = some m ∧ t.WordIs before m.text.toList after

/-- The field takes every completion in the place of the word. -/
def TakesAll (s : Screen) (before after : List Char) : Prop :=
  ∀ m ∈ s.matched, Field.Keeps (before ++ m.text.toList ++ after)

/-- A step shows the completion that it goes to. -/
theorem shows_cycle (htakes : s.TakesAll before after) (hseveral : 2 ≤ s.matched.length)
    (hmatched : t.matched = s.matched) (hword : t.WordIs before word after)
    (hnext : t.nextCycle forward = ⟨i, s.field.value, s.field.cursor⟩) (hi : i < s.matched.length) :
    Shows s (t.cycle forward) before after i := by
  have hget : s.matched[i]? = some s.matched[i] := List.getElem?_eq_getElem hi
  have hoffered : t.offered forward = s.matched[i].text := by
    rw [offered, hnext, hmatched, hget]
    rfl
  rw [cycle_of_several (hmatched ▸ hseveral), hnext, hoffered]
  have hnoted : WordIs { t with cycling := some ⟨i, s.field.value, s.field.cursor⟩ }
      before word after := ⟨hword.value, hword.start, hword.stop⟩
  exact ⟨hmatched, rfl, _, hget, hnoted.replaceWord (htakes _ (List.getElem_mem hi))⟩

/-- The first step of a run. -/
theorem shows_first (htakes : s.TakesAll before after) (hseveral : 2 ≤ s.matched.length)
    (hidle : s.cycling = none) (hword : s.WordIs before word after) (forward : Bool) :
    Shows s (s.cycle forward) before after (firstIndex s.matched.length forward) := by
  refine shows_cycle htakes hseveral rfl hword ?_ (firstIndex_lt (by omega) forward)
  rw [nextCycle, hidle]
  rfl

/-- Any other step. -/
theorem Shows.cycle (h : Shows s t before after i) (htakes : s.TakesAll before after)
    (hseveral : 2 ≤ s.matched.length) (forward : Bool) :
    Shows s (t.cycle forward) before after (nextIndex forward s.matched.length i) := by
  obtain ⟨m, -, hword⟩ := h.shown
  refine shows_cycle htakes hseveral h.matched hword ?_ (nextIndex_lt (by omega) forward i)
  rw [nextCycle, h.cycling, h.matched]

/-- Esc puts the line and the cursor back. -/
theorem Shows.esc (h : Shows s t before after i) (hfield : s.field.Sound) :
    (t.press .esc).1.field = s.field := by
  have hesc : (t.press .esc).1.field
      = (t.field.setValue s.field.value).setCursor s.field.cursor := by
    rw [press, h.cycling]
    rfl
  rw [hesc, Field.restore hfield]

/-! ### All steps -/

/-- The key of a step goes through the completions its way. -/
theorem update_stepMessage (s : Screen) (forward : Bool) :
    (s.update (stepMessage forward)).1 = s.cycle forward := by
  cases forward <;> rfl

/-- More steps add up to the number of the completion. -/
theorem Shows.steps (h : Shows s t before after i) (htakes : s.TakesAll before after)
    (hseveral : 2 ≤ s.matched.length) (hi : i < s.matched.length) (rest : List Bool) :
    Shows s (t.updateAll (rest.map stepMessage)) before after
      ((i + netSteps rest) % (s.matched.length : Int)).toNat := by
  induction rest generalizing t i with
  | nil =>
      have hsame : ((i + netSteps []) % (s.matched.length : Int)).toNat = i := by
        have hnone : netSteps [] = 0 := rfl
        rw [hnone, Int.add_zero, ← Int.natCast_emod, Int.toNat_natCast, Nat.mod_eq_of_lt hi]
      rw [hsame]
      exact h
  | cons forward rest ih =>
      have hnext := ih (h.cycle htakes hseveral forward) (nextIndex_lt (by omega) forward i)
      rw [nextIndex_eq hi, Int.emod_add_emod, Int.add_assoc] at hnext
      rw [List.map_cons, netSteps_cons]
      show Shows s ((t.update (stepMessage forward)).1.updateAll _) before after _
      rw [update_stepMessage]
      exact hnext

/-- **A run through completions.** On a console that has got any messages, no run is going on and
there are several completions. There is room in the line for each of them, and none has a character
that the field drops. After a first step and any more steps, the completion of the number that they
come to is in the place of the word, and the rest of the line is the same. Esc then puts back the
line and the cursor as they were. -/
theorem steps_show {palette : Palette} {session : Session} {history : History} {ms : List Message}
    (hs : s = (start palette session history).updateAll ms) (hidle : s.cycling = none)
    (hseveral : 2 ≤ s.matched.length)
    (hroom : ∀ m ∈ s.matched, (s.lineWith m.text).length ≤ fieldLimit)
    (hcontrol : ∀ m ∈ s.matched, ∀ c ∈ m.text.toList, isControl c = false)
    (hreplacement : ∀ m ∈ s.matched, replacement ∉ m.text.toList) :
    ∃ before word after, s.WordIs before word after ∧ IsWord before word after ∧
      ∀ first rest, let t := s.updateAll ((first :: rest).map stepMessage)
        (∃ m, s.matched[shownIndex s.matched.length first rest]? = some m ∧
          t.field.value = before ++ m.text.toList ++ after) ∧
        (t.press .esc).1.field = s.field := by
  have hcoherent : s.Coherent := hs ▸ coherent_updateAll palette session history ms
  have hne : s.matched ≠ [] := List.ne_nil_of_length_pos (by omega)
  obtain ⟨before, word, after, hword, hboundary, -⟩ :=
    exists_wordIs hcoherent.field (hcoherent.current hidle hne).bounds
  -- The field takes each completion as it is: there is room for it, and all of its characters are
  -- plain.
  have htakes : s.TakesAll before after := by
    intro m hm
    have hplain := hcoherent.field.keeps.plain
    rw [hword.value] at hplain
    refine ⟨fun c hc => ?_, ?_⟩
    · simp only [List.mem_append] at hc hplain
      rcases hc with (hc | hc) | hc
      · exact hplain c (.inl (.inl hc))
      · exact isPlain_iff.mpr ⟨hcontrol m hm c hc, fun h => hreplacement m hm (h ▸ hc)⟩
      · exact hplain c (.inr hc)
    · rw [← hword.lineWith]
      exact hroom m hm
  refine ⟨before, word, after, hword, hboundary, fun first rest => ?_⟩
  have hfirst := shows_first htakes hseveral hidle hword first
  have hrun := hfirst.steps htakes hseveral (firstIndex_lt (by omega) first) rest
  rw [← update_stepMessage] at hrun
  obtain ⟨m, hm, hshown⟩ := hrun.shown
  exact ⟨⟨m, hm, hshown.value⟩, hrun.esc hcoherent.field⟩

/-- Back to the last of the nine tags, and forward to the second one. -/
theorem steps_show_defn :
    let s := emptyLine.updateAll [.key (.pasted "<>"), .key (.editing .left)]
    s.field.text = "<>" ∧ s.matched.length = 9 ∧ shownIndex 9 false [true, true] = 1 ∧
      ∃ before word after, s.WordIs before word after ∧ IsWord before word after ∧
        let t := s.updateAll ([false, true, true].map stepMessage)
        t.field.value = before ++ "defn".toList ++ after ∧ (t.press .esc).1.field = s.field := by
  intro s
  have hs : s = emptyLine.updateAll [.key (.pasted "<>"), .key (.editing .left)] := rfl
  have hcount : s.matched.length = 9 := by decide
  have hindex : shownIndex 9 false [true, true] = 1 := by decide
  have hcontrol : ∀ m ∈ s.matched, m.text.toList.any isControl = false := by decide
  obtain ⟨before, word, after, hword, hboundary, hruns⟩ :=
    steps_show hs (by decide) (by omega) (by decide)
      (fun m hm => by simpa using hcontrol m hm) (by decide)
  obtain ⟨⟨m, hm, hvalue⟩, hesc⟩ := hruns false [true, true]
  have hdefn : m.text = "defn" := by
    have hsecond : s.matched[1]?.map Match.text = some "defn" := by decide +kernel
    rw [hcount, hindex] at hm
    rw [hm] at hsecond
    exact Option.some.inj hsecond
  exact ⟨by decide, hcount, hindex, before, word, after, hword, hboundary, hdefn ▸ hvalue, hesc⟩

/-- The name of a function is a character that the field drops. The step back from the first of the
functions goes to it, and nothing is put in the place of the word. The bounds say that something
was. -/
theorem steps_show_dropped :
    let s := emptyLine.updateAll [.edited "<defn \ufffd></defn>", .key (.pasted "<do ")]
    s.cycling = none ∧ s.matched.length = 18 ∧
      (∀ m ∈ s.matched, (s.lineWith m.text).length ≤ fieldLimit ∧
        ∀ c ∈ m.text.toList, isControl c = false) ∧
      (s.matched[shownIndex 18 false []]?.map Match.text) = some "\ufffd" ∧
      String.ofList (s.lineWith "\ufffd") = "<do \ufffd" ∧
      let t := s.updateAll [stepMessage false]
      t.field.text = "<do " ∧ t.wordStart = 4 ∧ t.wordEnd = 7 := by
  intro s
  -- The characters of a name are looked at one by one, not all characters that there are.
  have hclear : s.cycling = none ∧ s.matched.length = 18 ∧
      ∀ m ∈ s.matched, (s.lineWith m.text).length ≤ fieldLimit ∧
        m.text.toList.any isControl = false := by decide +kernel
  obtain ⟨hidle, hcount, hnames⟩ := hclear
  refine ⟨hidle, hcount, fun m hm => ?_, by decide +kernel⟩
  obtain ⟨hroom, hcontrol⟩ := hnames m hm
  exact ⟨hroom, by simpa using hcontrol⟩

end Screen

end TagScript.Console
