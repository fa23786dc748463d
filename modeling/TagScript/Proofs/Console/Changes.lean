import TagScript.Proofs.Console.Bounds
import TagScript.Proofs.Console.Field
import TagScript.Proofs.Console.Words

/-!
# `TagScript.Proofs.Console.Changes`: what a message does to the line

The line that is being typed, its completions, the bounds of their word and the run through them
belong together. A message changes them in one of five ways (`Screen.Changes`): it leaves them
alone, it submits the line, it computes the completions anew, it ends them, or it is a step through
several of them. `changes_update` says so of every message, and what follows is proved from these
five cases.

`Screen.Coherent` is what holds of every console at any time (`coherent_updateAll`):

* the field is one that a field can be;
* a run through completions began at such a field, and the line was not empty;
* outside of a run, completions are those of a line that is not empty, and the bounds are those of
  the word at the cursor.

It does not say that the bounds lie in the line during a run, since they do not when the field
cuts a completion.
-/

set_option autoImplicit false

namespace TagScript.Console

open Text

namespace Screen

variable {s s' t : Screen} {forward : Bool} {m : Message} {ms : List Message}

/-! ### The parts of a screen that belong to the line -/

/-- The line, its completions and the run through them are the same. -/
structure SameLine (s s' : Screen) : Prop where
  field : s'.field = s.field
  matched : s'.matched = s.matched
  wordStart : s'.wordStart = s.wordStart
  wordEnd : s'.wordEnd = s.wordEnd
  cycling : s'.cycling = s.cycling

/-- A screen has the same line as itself. -/
theorem SameLine.refl (s : Screen) : SameLine s s := ⟨rfl, rfl, rfl, rfl, rfl⟩

/-- What has the same line as the same line has it, too. -/
theorem SameLine.trans (h : SameLine s s') (h' : SameLine s' t) : SameLine s t :=
  ⟨h'.field.trans h.field, h'.matched.trans h.matched, h'.wordStart.trans h.wordStart,
    h'.wordEnd.trans h.wordEnd, h'.cycling.trans h.cycling⟩

/-- Remembering a line leaves the one that is typed alone. -/
theorem sameLine_remember (s : Screen) (line : String) : SameLine s (s.remember line) := by
  constructor <;> dsimp only [remember, leaveHistory]

/-- Evaluating a source leaves the line alone. -/
theorem sameLine_evaluate (s : Screen) (source : String) : SameLine s (s.evaluate source).1 := by
  unfold evaluate
  rcases s.session.eval false source with ⟨reply, session⟩
  exact ⟨rfl, rfl, rfl, rfl, rfl⟩

/-- Carrying out a command leaves the line alone. -/
theorem sameLine_command (s : Screen) (input : String) : SameLine s (s.command input).1 := by
  unfold command
  dsimp only
  split
  all_goals first
    | exact ⟨rfl, rfl, rfl, rfl, rfl⟩
    | split <;> exact ⟨rfl, rfl, rfl, rfl, rfl⟩

/-- The screen with an empty line, and no completions for it. -/
def emptied (s : Screen) : Screen := { s.setValue [] with matched := [] }

/-- There is nothing in an emptied line. -/
theorem value_emptied (s : Screen) : s.emptied.field.value = [] := rfl

/-- Submitting a line empties it and drops its completions. It does not end a run through them. -/
theorem sameLine_execute (hline : trimBlank s.field.text ≠ "") :
    SameLine s.emptied s.execute.1 := by
  have hremember := sameLine_remember s.emptied (trimBlank s.field.text)
  unfold execute
  dsimp only
  rw [if_neg hline]
  split
  · exact hremember.trans (sameLine_command _ _)
  · exact hremember.trans (sameLine_evaluate _ _)

/-! ### Five ways to change a line -/

/-- The message of a step through the completions. -/
def stepMessage (forward : Bool) : Message :=
  .key (if forward then .tab else .shiftTab)

/-- What a message does to the line and to what belongs to it. -/
inductive Changes (s : Screen) (m : Message) : Screen → Prop
  /-- Nothing. -/
  | kept {s' : Screen} (same : SameLine s s') : Changes s m s'
  /-- The line was submitted. -/
  | submitted {s' : Screen} (same : SameLine s.emptied s') : Changes s m s'
  /-- The completions are those of the word at the cursor. -/
  | refreshed {t : Screen} (field : s.field.Sound → t.field.Sound)
      (cycling : t.cycling = s.cycling ∨ t.cycling = none) : Changes s m t.refresh
  /-- A completion was accepted, and there are none left. -/
  | accepted {s' : Screen} (field : s.field.Sound → s'.field.Sound) (matched : s'.matched = [])
      (cycling : s'.cycling = none) : Changes s m s'
  /-- One of several completions is shown. -/
  | stepped {forward : Bool} (step : m = stepMessage forward) (several : 2 ≤ s.matched.length) :
      Changes s m (s.cycle forward)

/-- Computing the completions anew leaves the line and the run as they are. -/
theorem field_refresh (s : Screen) : s.refresh.field = s.field := by
  dsimp only [refresh]

/-- Computing the completions anew leaves the run as it is. -/
theorem cycling_refresh (s : Screen) : s.refresh.cycling = s.cycling := by
  dsimp only [refresh]

/-- The bounds are then those of the word at the cursor. -/
theorem bounds_refresh (s : Screen) :
    wordBounds s.refresh.field.bytes s.refresh.field.cursor
      = (s.refresh.wordStart, s.refresh.wordEnd) := by
  dsimp only [refresh]

/-- The word is accepted if it is the only completion of itself. -/
theorem refreshAndAccept_cases (s : Screen) :
    s.refresh.matched.map Match.text = [s.refresh.word] ∧
        s.refreshAndAccept = { s.refresh with cycling := none, matched := [] } ∨
      s.refresh.matched.map Match.text ≠ [s.refresh.word] ∧ s.refreshAndAccept = s.refresh := by
  unfold refreshAndAccept
  dsimp only
  split
  · next m hone =>
      split_ifs with hword
      · exact .inl ⟨by rw [hone, hword]; rfl, rfl⟩
      · refine .inr ⟨fun h => hword ?_, rfl⟩
        rw [hone] at h
        exact (List.cons.inj h).1.symm
  · next hmany =>
      refine .inr ⟨fun h => ?_, rfl⟩
      obtain ⟨m, hone, -⟩ := List.map_eq_singleton_iff.mp h
      exact hmany m hone

/-- When the completions are computed anew and a word may be accepted, the change is one of these
two. -/
theorem changes_refreshAndAccept (hfield : s.field.Sound → t.field.Sound)
    (hcycling : t.cycling = s.cycling ∨ t.cycling = none) : Changes s m t.refreshAndAccept := by
  rcases refreshAndAccept_cases t with ⟨-, heq⟩ | ⟨-, heq⟩
  · rw [heq]
    refine .accepted (fun h => ?_) rfl rfl
    dsimp only
    rw [field_refresh]
    exact hfield h
  · rw [heq]
    exact .refreshed hfield hcycling

/-- Typing changes the line in one of the five ways. -/
theorem changes_typeIn (hfield : t.field = s.field)
    (hcycling : t.cycling = s.cycling ∨ t.cycling = none) (cs : List Char) :
    Changes s m (t.typeIn cs) := by
  refine changes_refreshAndAccept (fun h => ?_) hcycling
  show (t.field.insert cs).Sound
  exact hfield ▸ h.insert cs

/-- A step through the completions changes nothing if there are none, accepts a single one, and
otherwise shows the next one. -/
theorem changes_cycle (s : Screen) (forward : Bool) :
    Changes s (stepMessage forward) (s.cycle forward) := by
  rcases hmatched : s.matched with _ | ⟨first, _ | ⟨second, rest⟩⟩
  · have hnone : s.cycle forward = s := by simp only [cycle, hmatched]
    rw [hnone]
    exact .kept (.refl s)
  · have hone : s.cycle forward
        = { s.replaceWord first.text with cycling := none, matched := [] } := by
      simp only [cycle, hmatched]
    rw [hone]
    exact .accepted (fun _ => (Field.sound_setValue _ _).setCursor _) rfl rfl
  · exact .stepped rfl (by simp [hmatched])

/-- A move through the history computes the completions anew, or does nothing. -/
theorem changes_historyMove (s : Screen) (forward : Bool) (m : Message) :
    Changes s m (s.historyMove forward) := by
  unfold historyMove
  dsimp only
  split
  · exact .kept (.refl s)
  · split
    · exact .refreshed (fun _ => Field.sound_setValue _ _) (.inl rfl)
    · exact .refreshed (fun _ => (Field.sound_setValue _ _).setCursor _) (.inl rfl)

/-- Enter submits the line, or does nothing if it is blank. -/
theorem changes_execute (s : Screen) (m : Message) : Changes s m s.execute.1 := by
  by_cases hline : trimBlank s.field.text = ""
  · have hnone : s.execute.1 = s := by
      unfold execute
      dsimp only
      rw [if_pos hline]
    rw [hnone]
    exact .kept (.refl s)
  · exact .submitted (sameLine_execute hline)

/-- Every key changes the line in one of the five ways. -/
theorem changes_press (s : Screen) (k : Key) : Changes s (.key k) (s.press k).1 := by
  cases k with
  | enter =>
      rw [press]
      split
      · exact changes_execute s _
      · dsimp only
        exact changes_refreshAndAccept (fun h => h) (.inr rfl)
  | tab => exact changes_cycle s true
  | shiftTab => exact changes_cycle s false
  | up => exact changes_historyMove s false _
  | down => exact changes_historyMove s true _
  | esc =>
      rw [press]
      split
      · exact .kept (.refl s)
      · exact .refreshed (fun _ => (Field.sound_setValue _ _).setCursor _) (.inr rfl)
  | ctrlC =>
      rw [press]
      split
      · exact .kept ⟨rfl, rfl, rfl, rfl, rfl⟩
      · exact .refreshed (fun _ => Field.sound_setValue _ _) (.inr rfl)
  | ctrlD =>
      rw [press]
      split
      · exact .kept ⟨rfl, rfl, rfl, rfl, rfl⟩
      · exact .kept (.refl s)
  | editing key => exact .refreshed (fun h => h.edit key) (.inr rfl)
  | altEditing key => exact changes_refreshAndAccept (fun h => h.edit key) (.inl rfl)
  | typed c =>
      -- A space ends a run before it is typed, any other character does not.
      dsimp only [press]
      split
      · exact changes_typeIn (s := s) (t := { s with cycling := none }) rfl (.inr rfl) [c]
      · exact changes_typeIn (s := s) (t := s) rfl (.inl rfl) [c]
  | pasted text =>
      dsimp only [press]
      exact changes_typeIn (s := s) (t := s) rfl (.inl rfl) text.toList

/-- Every message changes the line in one of the five ways. -/
theorem changes_update (s : Screen) (m : Message) : Changes s m (s.update m).1 := by
  cases m with
  | key k => exact changes_press s k
  | edited source =>
      rw [update]
      exact .kept ((sameLine_remember s _).trans (sameLine_evaluate _ source))
  | resize width => exact .kept ⟨rfl, rfl, rfl, rfl, rfl⟩
  | editCancelled | editDeclined | editFailed reason | other => exact .kept (.refl s)

/-! ### What holds at any time -/

/-- The completions are those of a line that is not empty, and the bounds are those of the word at
the cursor. -/
structure Current (s : Screen) : Prop where
  line : s.field.value ≠ []
  bounds : wordBounds s.field.bytes s.field.cursor = (s.wordStart, s.wordEnd)

/-- What holds of the line and of what belongs to it at any time. -/
structure Coherent (s : Screen) : Prop where
  field : s.field.Sound
  /-- A run can go back to the line that it began with, which was not empty. -/
  saved : ∀ c, s.cycling = some c → Field.Sound ⟨c.text, c.cursor⟩ ∧ c.text ≠ []
  current : s.cycling = none → s.matched ≠ [] → s.Current

/-- The screen at the start is coherent. -/
theorem coherent_start (palette : Palette) (session : Session) (history : History) :
    (start palette session history).Coherent :=
  ⟨Field.sound_empty, fun _ hc => (nomatch hc), fun _ hne => absurd rfl hne⟩

/-- Coherence is about the line and what belongs to it. -/
theorem Coherent.congr (h : s.Coherent) (same : SameLine s s') : s'.Coherent := by
  refine ⟨same.field ▸ h.field, fun c hc => h.saved c (same.cycling ▸ hc), fun hidle hne => ?_⟩
  obtain ⟨hline, hbounds⟩ := h.current (same.cycling ▸ hidle) (same.matched ▸ hne)
  exact ⟨same.field ▸ hline, by rw [same.field, same.wordStart, same.wordEnd, hbounds]⟩

/-- An empty line has no completions. -/
theorem matched_refresh_of_nil (h : s.field.value = []) : s.refresh.matched = [] := by
  simp [refresh, Field.bytes, h, encode, wordBounds, slice, candidates, openTag?, afterLastOpen?,
    ofOctets, decode, decodeFrom, offers]

/-- Computing the completions anew makes a screen coherent, if its field is sound and its run goes
back to a line. -/
theorem coherent_refresh (hfield : s.field.Sound)
    (hsaved : ∀ c, s.cycling = some c → Field.Sound ⟨c.text, c.cursor⟩ ∧ c.text ≠ []) :
    s.refresh.Coherent where
  field := by
    rw [field_refresh]
    exact hfield
  saved := by
    rw [cycling_refresh]
    exact hsaved
  current _ hne := by
    refine ⟨fun hnil => hne (matched_refresh_of_nil ?_), bounds_refresh s⟩
    rwa [field_refresh] at hnil

/-- With several completions, a step shows the one that it goes to and notes the run. -/
theorem cycle_of_several (several : 2 ≤ s.matched.length) (forward : Bool) :
    s.cycle forward
      = { s with cycling := some (s.nextCycle forward) }.replaceWord (s.offered forward) := by
  rcases hmatched : s.matched with _ | ⟨first, _ | ⟨second, rest⟩⟩
  · simp [hmatched] at several
  · simp [hmatched] at several
  · simp only [cycle, offered, hmatched]

/-- A run goes back to where it began, and a new one to the line as it is. -/
theorem nextCycle_saved (s : Screen) (forward : Bool) :
    (s.nextCycle forward).text = ((s.cycling.map Cycle.text).getD s.field.value) ∧
      (s.nextCycle forward).cursor = ((s.cycling.map Cycle.cursor).getD s.field.cursor) := by
  unfold nextCycle
  cases s.cycling <;> exact ⟨rfl, rfl⟩

/-- A step through several completions keeps a screen coherent. -/
theorem coherent_cycle (h : s.Coherent) (several : 2 ≤ s.matched.length) (forward : Bool) :
    (s.cycle forward).Coherent := by
  have hne : s.matched ≠ [] := List.ne_nil_of_length_pos (by omega)
  obtain ⟨htext, hcursor⟩ := nextCycle_saved s forward
  rw [cycle_of_several several]
  refine ⟨(Field.sound_setValue _ _).setCursor _, fun c hc => ?_, fun hidle => nomatch hidle⟩
  obtain rfl : s.nextCycle forward = c := Option.some.inj hc
  rw [htext, hcursor]
  cases hcycling : s.cycling with
  | none => exact ⟨h.field, (h.current hcycling hne).line⟩
  | some c => exact h.saved c hcycling

/-- Each of the five changes keeps a screen coherent. -/
theorem Coherent.changes (h : s.Coherent) (hm : Changes s m s') : s'.Coherent := by
  cases hm with
  | kept same => exact h.congr same
  | submitted same =>
      have hemptied : s.emptied.Coherent :=
        ⟨Field.sound_setValue _ _, h.saved, fun _ hne => absurd rfl hne⟩
      exact hemptied.congr same
  | refreshed field cycling =>
      refine coherent_refresh (field h.field) fun c hc => ?_
      rcases cycling with hsame | hnone
      · exact h.saved c (hsame ▸ hc)
      · rw [hnone] at hc
        cases hc
  | accepted field matched cycling =>
      refine ⟨field h.field, fun c hc => ?_, fun _ hne => absurd matched hne⟩
      rw [cycling] at hc
      cases hc
  | stepped _ several => exact coherent_cycle h several _

/-- And so does every message. -/
theorem Coherent.update (h : s.Coherent) (m : Message) : (s.update m).1.Coherent :=
  h.changes (changes_update s m)

/-- Messages one after another keep what holds at any time. -/
theorem Coherent.updateAll (h : s.Coherent) (ms : List Message) : (s.updateAll ms).Coherent := by
  induction ms generalizing s with
  | nil => exact h
  | cons m ms ih => exact ih (h.update m)

/-- A console is coherent whatever messages it gets. -/
theorem coherent_updateAll (palette : Palette) (session : Session) (history : History)
    (ms : List Message) : ((start palette session history).updateAll ms).Coherent :=
  (coherent_start palette session history).updateAll ms

end Screen

end TagScript.Console
