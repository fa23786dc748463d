import TagScript.Proofs.Console.Cycling

/-!
# `TagScript.Proofs.Console.Submission`: a new line after a run through completions

A new line should begin without a run through the completions of the line before
(`Screen.StartsAfresh`): Esc has nothing to go back to, and the first step goes to the first
completion.

Messages that are no steps begin no run (`Changes.idle`), so a new line begins afresh when the line
before it was submitted outside of a run. A run does not always keep Enter from submitting: one
goes on when more characters are typed, and when these leave no completions, Enter submits the line.
It does not end the run then, and Esc brings the submitted line's beginning back. So this is the
only case in which a new line does not begin afresh (`submitted_startsAfresh_iff`).
-/

set_option autoImplicit false

namespace TagScript.Console

open Text

namespace Screen

variable {s s' t : Screen} {m : Message}

/-- The message is a step through the completions. -/
def IsStep (m : Message) : Prop := ∃ forward, m = stepMessage forward

/-- No run through completions is left over: Esc does not change the line, and the first step goes
to the first completion. -/
structure StartsAfresh (t : Screen) : Prop where
  esc : (t.press .esc).1.field.value = t.field.value
  tab : 2 ≤ t.matched.length → ∃ first, t.matched.head? = some first ∧
    (t.press .tab).1.cycling.map Cycle.selected = some 0 ∧
    (t.press .tab).1.field = (t.replaceWord first.text).field

/-- Outside a run, no run is left over. -/
theorem startsAfresh_of_idle (hidle : t.cycling = none) : t.StartsAfresh where
  esc := by
    have hesc : (t.press .esc).1 = t := by rw [press, hidle]
    rw [hesc]
  tab hseveral := by
    have hne : t.matched ≠ [] := List.ne_nil_of_length_pos (by omega)
    have hfirst : t.matched.head? = some (t.matched.head hne) := List.head?_eq_some_head hne
    refine ⟨t.matched.head hne, hfirst, ?_, ?_⟩
    · show (t.cycle true).cycling.map Cycle.selected = some 0
      rw [cycle_of_several hseveral, nextCycle, hidle]
      rfl
    · show (t.cycle true).field = _
      rw [field_cycle hne, offered_first hidle hfirst]

/-- A message that is no step begins no run. -/
theorem Changes.idle (h : Changes s m s') (hm : ¬ IsStep m) (hidle : s.cycling = none) :
    s'.cycling = none := by
  cases h with
  | kept same => exact same.cycling.trans hidle
  | submitted same => exact same.cycling.trans hidle
  | refreshed field cycling =>
      rw [cycling_refresh]
      rcases cycling with hsame | hnone
      · exact hsame.trans hidle
      · exact hnone
  | accepted field matched cycling => exact cycling
  | stepped step several => exact absurd ⟨_, step⟩ hm

/-- Messages that are no steps begin no run. -/
theorem idle_updateAll {ms : List Message} (hms : ∀ m ∈ ms, ¬ IsStep m) (hidle : s.cycling = none) :
    (s.updateAll ms).cycling = none := by
  induction ms generalizing s with
  | nil => exact hidle
  | cons m ms ih =>
      obtain ⟨hm, hrest⟩ := List.forall_mem_cons.mp hms
      exact ih hrest ((changes_update s m).idle hm hidle)

/-- Esc brings a line back when the line before it was submitted during a run. -/
theorem esc_of_submitted (hs : s.Coherent) (same : SameLine s.emptied t) {c : Cycle}
    (hrun : s.cycling = some c) : (t.press .esc).1.field.value ≠ t.field.value := by
  obtain ⟨hsound, hline⟩ := hs.saved c hrun
  have hcycling : t.cycling = some c := same.cycling.trans hrun
  have hesc : (t.press .esc).1.field.value = (t.field.setValue c.text).value := by
    rw [press, hcycling]
    rfl
  rw [hesc, Field.value_setValue hsound.keeps, same.field, value_emptied]
  exact hline

/-- **A new line.** On a console that has got any messages, Enter submits a line that is not blank.
Whatever messages but steps follow, no run through completions is left over, if and only if there
was none when the line was submitted. -/
theorem submitted_startsAfresh_iff {palette : Palette} {session : Session} {history : History}
    {ms : List Message} (hs : s = (start palette session history).updateAll ms)
    (hsubmits : s.cycling = none ∨ s.matched = []) (hline : trimBlank s.field.text ≠ "") :
    (∀ later : List Message, (∀ m ∈ later, ¬ IsStep m) →
        ((s.press .enter).1.updateAll later).StartsAfresh) ↔ s.cycling = none := by
  have hcoherent : s.Coherent := hs ▸ coherent_updateAll palette session history ms
  have henter : s.press .enter = s.execute := by
    rw [press, if_pos]
    rcases hsubmits with h | h <;> simp [h]
  have hsame : SameLine s.emptied (s.press .enter).1 := henter ▸ sameLine_execute hline
  constructor
  · intro hafresh
    by_contra hrun
    obtain ⟨c, hc⟩ := Option.ne_none_iff_exists'.mp hrun
    exact esc_of_submitted hcoherent hsame hc (hafresh [] (by simp)).esc
  · intro hidle later hlater
    exact startsAfresh_of_idle (idle_updateAll hlater (hsame.cycling.trans hidle))

/-- A space ends the run through the tags before the line is submitted. -/
theorem submitted_startsAfresh_iff_space :
    let s := emptyLine.updateAll [.key (.typed '<'), .key .tab, .key (.typed ' ')]
    s.cycling = none ∧ trimBlank s.field.text = "<cond" ∧
      ∀ later : List Message, (∀ m ∈ later, ¬ IsStep m) →
        ((s.press .enter).1.updateAll later).StartsAfresh := by
  intro s
  have hs : s = emptyLine.updateAll [.key (.typed '<'), .key .tab, .key (.typed ' ')] := rfl
  have hidle : s.cycling = none := by decide +kernel
  have hline : trimBlank s.field.text = "<cond" := by decide +kernel
  have hnotBlank : trimBlank s.field.text ≠ "" := by
    rw [hline]
    decide
  exact ⟨hidle, hline, (submitted_startsAfresh_iff hs (.inl hidle) hnotBlank).mpr hidle⟩

/-- A letter behind the tag does not end the run. Enter submits the line, and Esc then brings back
what the run began with. Without Esc, the first step on the next line goes to the second tag. -/
theorem submitted_staleRun :
    let s := emptyLine.updateAll [.key (.typed '<'), .key .tab, .key (.typed 'z')]
    let t := (s.press .enter).1
    s.field.text = "<condz" ∧ s.matched = [] ∧ t.field.text = "" ∧
      (t.press .esc).1.field.text = "<" ∧
      (t.updateAll [.key (.typed '<')]).matched.length = 9 ∧
      (t.updateAll [.key (.typed '<'), .key .tab]).cycling.map Cycle.selected = some 1 := by
  decide +kernel

end Screen

end TagScript.Console
