import TagScript.Console.Editing
import TagScript.Proofs.Console.Persistence
import TagScript.Proofs.Markup.Malformed

/-!
# `TagScript.Proofs.Console.Replies`: the prompts of an edit and their replies

An edit goes through rounds. In each an editor leaves a text, and if it does not hold a template,
a prompt asks whether to go on. `Answers` says how an edit ends whose rounds leave given texts and
whose prompts are answered by given replies, one each: with the first text that is blank or holds
a template, unless a prompt before is declined or has no reply.

Which replies do the prompts get? Every one begins to read anew and takes whole reads, so that of
a read that goes on behind the line the rest is lost, and it takes no line of 65536 bytes or more.
These are the lines of `promptLines`; an edit always ends as they say. The lines that standard
input holds are `replyLines`. Of either only the number of replies before the first that declines
is of consequence (`agreed`), so the edit ends as the lines of standard input say, whatever the
editor does, if and only if this number is the same for both (`editLoop_answers`). It is the same
when no read goes on behind a line end and all lines are short enough. In general it is not
(`editLoop_losesReplies`).
-/

set_option autoImplicit false

namespace TagScript.Console

open Markup Text

/-! ### How an edit should end -/

/-- All runs of an editor end well. -/
def Editor.Succeeds (editor : Editor) : Prop := ∀ n content, (editor n content).status = 0

/-- The text that the editor leaves `m` runs after its run `n`, which is on the given text. -/
def Editor.left (editor : Editor) : Nat → String → Nat → String
  | n, content, 0 => (editor n content).content
  | n, content, m + 1 => Editor.left editor (n + 1) (editor n content).content m

/-- Whether a text ends the edit: it is blank, or it holds a template. -/
def Settles (text : String) : Prop :=
  trimBlank text = "" ∨ ∃ nodes, parseTemplate (trimBlank text) = .ok nodes

/-- How an edit ends, and with what text, whose runs leave some texts and whose prompts get some
replies, one after the other. -/
inductive Answers (texts : Nat → String) (replies : List String) : EditOutcome → String → Prop where
  | accepted {n : Nat} (hsettles : Settles (texts n)) (hbefore : ∀ m < n, ¬ Settles (texts m))
      (hreplies : ∀ m < n, ∃ reply, replies[m]? = some reply ∧ declines reply = false) :
      Answers texts replies .accepted (trimBlank (texts n))
  | declined {n : Nat} (hbefore : ∀ m ≤ n, ¬ Settles (texts m))
      (hreplies : ∀ m < n, ∃ reply, replies[m]? = some reply ∧ declines reply = false)
      (hreply : ∀ reply, replies[n]? = some reply → declines reply = true) :
      Answers texts replies .declined (trimBlank (texts n))

/-- How many replies there are before the first one that declines. -/
def agreed (replies : List String) : Nat :=
  (replies.takeWhile fun reply => !declines reply).length

/-- There are so many replies before the first that declines when none of that many declines. -/
theorem le_agreed_iff {replies : List String} {n : Nat} :
    n ≤ agreed replies ↔
      ∀ m < n, ∃ reply, replies[m]? = some reply ∧ declines reply = false := by
  induction replies generalizing n with
  | nil =>
    cases n with
    | zero => simp [agreed]
    | succ n =>
      refine iff_of_false (Nat.not_succ_le_zero n) fun h => ?_
      obtain ⟨reply, hreply, -⟩ := h n (Nat.lt_succ_self n)
      cases hreply
  | cons first rest ih =>
    cases n with
    | zero => simp [agreed]
    | succ n =>
      rw [Nat.forall_lt_succ_left]
      by_cases hfirst : declines first = true
      · simp [agreed, hfirst]
      · rw [Bool.not_eq_true] at hfirst
        have hcons : agreed (first :: rest) = agreed rest + 1 := by simp [agreed, hfirst]
        simp [hcons, hfirst, ih]

/-- There are no more of them when the next reply, if there is one, declines. -/
theorem agreed_le_iff {replies : List String} {n : Nat} (hn : n ≤ agreed replies) :
    agreed replies ≤ n ↔ ∀ reply, replies[n]? = some reply → declines reply = true := by
  rw [← Nat.not_lt, ← Nat.succ_le_iff, le_agreed_iff, Nat.forall_lt_succ_right,
    ← le_agreed_iff]
  simp [hn]

/-- Of the replies only the number before the first that declines is of consequence. -/
theorem answers_iff {texts : Nat → String} {replies : List String} {outcome : EditOutcome}
    {text : String} :
    Answers texts replies outcome text ↔
      (outcome = .accepted ∧ ∃ n ≤ agreed replies, Settles (texts n) ∧
        (∀ m < n, ¬ Settles (texts m)) ∧ text = trimBlank (texts n)) ∨
      (outcome = .declined ∧ (∀ m ≤ agreed replies, ¬ Settles (texts m)) ∧
        text = trimBlank (texts (agreed replies))) := by
  constructor
  · rintro (⟨hsettles, hbefore, hreplies⟩ | ⟨hbefore, hreplies, hreply⟩)
    · exact .inl ⟨rfl, _, le_agreed_iff.mpr hreplies, hsettles, hbefore, rfl⟩
    · have hle := le_agreed_iff.mpr hreplies
      have hn := Nat.le_antisymm ((agreed_le_iff hle).mpr hreply) hle
      rw [hn]
      exact .inr ⟨rfl, hbefore, rfl⟩
  · rintro (⟨rfl, n, hn, hsettles, hbefore, rfl⟩ | ⟨rfl, hbefore, rfl⟩)
    · exact .accepted hsettles hbefore (le_agreed_iff.mp hn)
    · exact .declined hbefore (le_agreed_iff.mp (Nat.le_refl _))
        ((agreed_le_iff (Nat.le_refl _)).mp (Nat.le_refl _))

/-- Replies that agree equally often give the same end. -/
theorem answers_congr {texts : Nat → String} {replies others : List String}
    (h : agreed replies = agreed others) (outcome : EditOutcome) (text : String) :
    Answers texts replies outcome text ↔ Answers texts others outcome text := by
  rw [answers_iff, answers_iff, h]

/-- The edit is accepted if there are enough replies to get to the first text that settles it. -/
theorem Answers.accepted_iff {texts : Nat → String} {replies : List String}
    {outcome : EditOutcome} {text : String} (h : Answers texts replies outcome text) {n : Nat}
    (hn : ∀ m, Settles (texts m) ↔ n ≤ m) : outcome = .accepted ↔ n ≤ agreed replies := by
  rw [answers_iff] at h
  simp only [hn, Nat.not_le] at h
  rcases h with ⟨rfl, k, hk, hsettles, -⟩ | ⟨rfl, hbefore, -⟩
  · simpa using Nat.le_trans hsettles hk
  · simpa using hbefore _ (Nat.le_refl _)

/-! ### The lines of standard input, and those that prompts read -/

/-- The lines of a text. What is behind the last line end is a line unless it is empty. -/
def inputLines (cs : List Char) : List String :=
  let pieces := (splitOnChar '\n' cs).map String.ofList
  if pieces.getLast? = some "" then pieces.dropLast else pieces

/-- The lines that standard input holds. -/
def replyLines (reads : List String) : List String :=
  inputLines (reads.flatMap String.toList)

/-- The lines that prompts read one after another. What was read before by the first of them, and
holds no line end, is `pending`. -/
def promptLinesFrom (pending : List Char) : List String → List String
  | [] =>
    if pending = [] then []
    else if fits (String.ofList pending) then [String.ofList pending] else []
  | read :: rest =>
    let all := pending ++ read.toList
    if '\n' ∈ all then
      let line := String.ofList (all.takeWhile (· ≠ '\n'))
      if fits line then line :: promptLinesFrom [] rest else []
    else promptLinesFrom all rest

/-- The lines that prompts read one after another. -/
def promptLines (reads : List String) : List String :=
  promptLinesFrom [] reads

/-- No read goes on behind a line end, and every line can be read. -/
structure Linewise (reads : List String) : Prop where
  ends : ∀ read ∈ reads, '\n' ∉ read.toList.dropLast
  short : ∀ line ∈ replyLines reads, fits line

/-- A line that is complete is read when it fits, and otherwise no line is read. -/
theorem finish_eq (line : List Char) (rest : List String) :
    readLineFrom?.finish line rest
      = if fits (String.ofList line) then some (String.ofList line, rest) else none := by
  unfold readLineFrom?.finish fits
  by_cases h : lineLimit ≤ (String.ofList line).utf8ByteSize
  · simp [h]
  · simp [h, Nat.not_le.mp h]

/-- A prompt reads the first of the lines, and leaves the others to the prompts after it. -/
theorem promptLinesFrom_eq (pending : List Char) (reads : List String) :
    promptLinesFrom pending reads = match readLineFrom? pending reads with
      | none => []
      | some (line, rest) => line :: promptLines rest := by
  -- What is pending grows until a line ends, while the prompts behind it begin with nothing.
  induction reads generalizing pending with
  | nil =>
    rw [promptLinesFrom, readLineFrom?, finish_eq]
    by_cases hpending : pending = []
    · simp [hpending]
    · by_cases hfits : fits (String.ofList pending)
      · simp [hpending, hfits, promptLines, promptLinesFrom]
      · simp [hpending, hfits]
  | cons read rest ih =>
    rw [promptLinesFrom, readLineFrom?]
    by_cases hend : '\n' ∈ pending ++ read.toList
    · simp only [hend, if_true, List.contains_iff_mem, finish_eq]
      split <;> rfl
    · simp only [hend, if_false, List.contains_iff_mem, ih]

/-- The prompts read one line after another, each from the reads that the one before has left. -/
theorem promptLines_eq (reads : List String) : promptLines reads = match readLine? reads with
    | none => []
    | some (line, rest) => line :: promptLines rest :=
  promptLinesFrom_eq [] reads

/-- A line that is read takes a read of standard input, unless none is left behind it. -/
theorem length_readLineFrom?_lt {pending : List Char} {reads rest : List String} {line : String}
    (h : readLineFrom? pending reads = some (line, rest)) :
    rest.length < reads.length ∨ rest = [] := by
  induction reads generalizing pending with
  | nil =>
    rw [readLineFrom?, finish_eq] at h
    split at h
    · cases h
    · split at h
      · cases h
        exact .inr rfl
      · cases h
  | cons read reads ih =>
    rw [readLineFrom?, finish_eq] at h
    split at h
    · split at h
      · cases h
        exact .inl (Nat.lt_succ_self _)
      · cases h
    · rcases ih h with hlt | rfl
      · exact .inl (Nat.lt_succ_of_lt hlt)
      · exact .inl (Nat.succ_pos _)

/-- A prompt uses up a read at least. -/
theorem length_readLine?_lt {reads rest : List String} {line : String}
    (h : readLine? reads = some (line, rest)) : rest.length < reads.length := by
  rcases length_readLineFrom?_lt h with hlt | rfl
  · exact hlt
  · cases reads with
    | nil => cases h
    | cons read reads => exact Nat.succ_pos _

/-! ### Lines that are read whole -/

/-- A text without the separator is one piece. -/
theorem splitOnChar_of_notMem {separator : Char} {piece : List Char} (h : separator ∉ piece) :
    splitOnChar separator piece = [piece] := by
  induction piece with
  | nil => rfl
  | cons c piece ih =>
    obtain ⟨hc, hpiece⟩ := not_or.mp (mt List.mem_cons.mpr h)
    rw [splitOnChar, if_neg (Ne.symm hc), ih hpiece, consFirst]

/-- A text without a line end is one line, or none when it is empty. -/
theorem inputLines_of_notMem {piece : List Char} (h : '\n' ∉ piece) :
    inputLines piece = if piece = [] then [] else [String.ofList piece] := by
  rw [inputLines, splitOnChar_of_notMem h]
  by_cases hpiece : piece = []
  · simp [hpiece]
  · have hne : String.ofList piece ≠ "" := by
      rw [Ne, ← String.toList_eq_nil_iff, String.toList_ofList]
      exact hpiece
    simp [hpiece, hne]

/-- The text up to the first line end is the first line. -/
theorem inputLines_append {piece : List Char} (h : '\n' ∉ piece) (rest : List Char) :
    inputLines (piece ++ '\n' :: rest) = String.ofList piece :: inputLines rest := by
  have hne : (splitOnChar '\n' rest).map String.ofList ≠ [] :=
    mt List.map_eq_nil_iff.mp (splitOnChar_ne_nil _ _)
  rw [inputLines, inputLines, splitOnChar_append _ _ h, List.map_cons,
    List.getLast?_cons_of_ne_nil hne]
  split
  · rw [List.dropLast_cons_of_ne_nil hne]
  · rfl

/-- A read that ends in the first line end completes a line. -/
theorem promptLinesFrom_cons {pending piece : List Char} {read : String} (hpiece : '\n' ∉ piece)
    (hread : pending ++ read.toList = piece ++ ['\n']) (rest : List String) :
    promptLinesFrom pending (read :: rest)
      = if fits (String.ofList piece) then String.ofList piece :: promptLines rest else [] := by
  have htake : (piece ++ ['\n']).takeWhile (· ≠ '\n') = piece := by
    rw [List.takeWhile_append_of_pos
      (by simpa using fun c hc => ne_of_mem_of_not_mem hc hpiece)]
    simp
  have hend : '\n' ∈ piece ++ ['\n'] := List.mem_append_right _ List.mem_cons_self
  simp only [promptLinesFrom, hread, hend, htake, if_true]
  rfl

/-- When no read goes on behind a line end and all lines are short, nothing is lost. -/
theorem promptLinesFrom_of_linewise {pending : List Char} {reads : List String}
    (hpending : '\n' ∉ pending) (hends : ∀ read ∈ reads, '\n' ∉ read.toList.dropLast)
    (hshort : ∀ line ∈ inputLines (pending ++ reads.flatMap String.toList), fits line) :
    promptLinesFrom pending reads = inputLines (pending ++ reads.flatMap String.toList) := by
  induction reads generalizing pending with
  | nil =>
    rw [List.flatMap_nil, List.append_nil, inputLines_of_notMem hpending] at *
    rw [promptLinesFrom]
    split
    · rfl
    · next hne =>
      rw [if_neg hne] at hshort
      rw [if_pos (hshort _ List.mem_cons_self)]
  | cons read reads ih =>
    obtain ⟨hread, hrest⟩ := List.forall_mem_cons.mp hends
    rw [List.flatMap_cons, ← List.append_assoc] at hshort ⊢
    by_cases hend : '\n' ∈ pending ++ read.toList
    · -- The line end is the last character of the read.
      have hline : ∃ piece, '\n' ∉ piece ∧ pending ++ read.toList = piece ++ ['\n'] := by
        have hmem : '\n' ∈ read.toList := (List.mem_append.mp hend).resolve_left hpending
        have hne : read.toList ≠ [] := List.ne_nil_of_mem hmem
        have hsplit := List.dropLast_append_getLast hne
        have hlast : read.toList.getLast hne = '\n' := by
          rw [← hsplit] at hmem
          simpa [hread, eq_comm] using hmem
        refine ⟨pending ++ read.toList.dropLast, ?_, ?_⟩
        · exact not_or.mpr ⟨hpending, hread⟩ ∘ List.mem_append.mp
        · rw [List.append_assoc, ← hlast, hsplit]
      obtain ⟨piece, hpiece, heq⟩ := hline
      rw [heq, List.append_assoc, List.singleton_append, inputLines_append hpiece] at hshort ⊢
      obtain ⟨hfits, hshort⟩ := List.forall_mem_cons.mp hshort
      rw [promptLinesFrom_cons hpiece heq, if_pos hfits, promptLines,
        ih List.not_mem_nil hrest hshort, List.nil_append]
    · simp only [promptLinesFrom, hend, if_false]
      exact ih hend hrest hshort

/-! ### How an edit ends -/

/-- After a text that does not settle the edit, a reply that agrees is the first of the replies. -/
theorem Answers.next {texts : Nat → String} {replies : List String} {reply text : String}
    {outcome : EditOutcome} (htext : ¬ Settles (texts 0)) (hreply : declines reply = false)
    (h : Answers (fun m => texts (m + 1)) replies outcome text) :
    Answers texts (reply :: replies) outcome text := by
  cases h with
  | @accepted n hsettles hbefore hreplies =>
    refine .accepted (n := n + 1) hsettles ?_ ?_
    · rw [Nat.forall_lt_succ_left]
      exact ⟨htext, hbefore⟩
    · rw [Nat.forall_lt_succ_left]
      exact ⟨⟨reply, rfl, hreply⟩, hreplies⟩
  | @declined n hbefore hreplies hlast =>
    refine .declined (n := n + 1) ?_ ?_ hlast
    · intro m hm
      cases m with
      | zero => exact htext
      | succ m => exact hbefore m (Nat.le_of_succ_le_succ hm)
    · rw [Nat.forall_lt_succ_left]
      exact ⟨⟨reply, rfl, hreply⟩, hreplies⟩

/-- From any round on, an edit ends as the texts that are left and the replies say. -/
theorem editRounds_answers {editor : Editor} (heditor : editor.Succeeds) (fuel n : Nat)
    (reads : List String) (content : String) (e : Edit) (hfuel : reads.length < fuel) :
    let r := editRounds editor fuel n reads content e
    Answers (editor.left n content) (promptLines reads) r.1 r.2.source := by
  -- A round hands on the number of its run, its text and the reads that are left.
  induction fuel generalizing n reads content e with
  | zero => cases hfuel
  | succ fuel ih =>
    unfold editRounds
    simp only [heditor n content, ne_eq, not_true_eq_false, if_false]
    split
    · next hblank =>
      exact .accepted (n := 0) (.inl hblank) nofun nofun
    · next hblank =>
      split
      · next nodes hparse => exact .accepted (n := 0) (.inr ⟨nodes, hparse⟩) nofun nofun
      · next fault hparse =>
        have hfaulty : ∀ m ≤ 0, ¬ Settles (editor.left n content m) := by
          rintro m hm (hsettled | ⟨nodes, hsettled⟩)
          · obtain rfl := Nat.le_zero.mp hm
            exact hblank hsettled
          · obtain rfl := Nat.le_zero.mp hm
            cases hparse.symm.trans hsettled
        rw [promptLines_eq]
        -- The prompt of this round has no reply, one that declines, or one that goes on.
        rcases hread : readLine? reads with _ | ⟨answer, rest⟩
        · exact .declined (n := 0) hfaulty nofun nofun
        · dsimp only
          split
          · next hdeclines =>
            refine .declined (n := 0) hfaulty nofun ?_
            rintro reply hreply
            obtain rfl : answer = reply := Option.some.inj hreply
            exact hdeclines
          · next hagrees =>
            have hless : rest.length < fuel :=
              Nat.lt_of_lt_of_le (length_readLine?_lt hread) (Nat.le_of_lt_succ hfuel)
            exact .next (hfaulty 0 (Nat.le_refl 0)) (by simpa using hagrees)
              (ih (n + 1) rest (editor n content).content _ hless)

/-- An edit ends as the lines say that the prompts read. -/
theorem editLoop_promptLines {editor : Editor} (heditor : editor.Succeeds) (reads : List String)
    (source : String) :
    let r := editLoop editor false reads source
    Answers (editor.left 0 source) (promptLines reads) r.1 r.2.source :=
  editRounds_answers heditor _ 0 reads source _ (Nat.lt_succ_self _)

/-! ### An editor that leaves no template for a number of runs -/

/-- A value without a literal is no template. -/
theorem parseTemplate_bareValue : parseTemplate "<v>" = .error (.malformed "V" 1 0) := by
  have htoken : nextToken? ("<v>".toList.length + 1) none false "<v>".toList
      = some (.startTag "v" [] false, []) := by decide +kernel
  have hoverflow : (Builder.initial.take false (.startTag "v" [] false)).overflow = false := by
    decide +kernel
  rw [parseTemplate, parseFragment?_token htoken, hoverflow]
  show Source.ofTrees _ = _
  rw [Source.ofTrees, Source.convertAll_eq_error_iff]
  refine ⟨⟨"v", []⟩, ?_, ?_⟩ <;> decide +kernel

/-- The editor whose first `n` runs leave no template. -/
def stubborn (n : Nat) : Editor :=
  fun run _ => ⟨"", if run < n then "<v>" else "ok", 0⟩

/-- The stubborn editor never fails. -/
theorem stubborn_succeeds (n : Nat) : (stubborn n).Succeeds := fun _ _ => rfl

/-- It leaves the faulty text in its first runs, and a template from then on. -/
theorem left_stubborn (n run : Nat) (content : String) (m : Nat) :
    (stubborn n).left run content m = if run + m < n then "<v>" else "ok" := by
  induction m generalizing run content with
  | zero => rfl
  | succ m ih =>
    rw [Editor.left, ih, Nat.succ_add, Nat.add_succ]

/-- The faulty text does not settle an edit. -/
theorem not_settles_bareValue : ¬ Settles "<v>" := by
  have htrim : trimBlank "<v>" = "<v>" := by decide +kernel
  rw [Settles, htrim, parseTemplate_bareValue]
  simp

/-- The template does. -/
theorem settles_ok : Settles "ok" := by
  have htrim : trimBlank "ok" = "ok" := by decide +kernel
  rw [Settles, htrim]
  exact .inr ⟨[.value (some (.text "ok"))], rfl⟩

/-- An edit with the stubborn editor is settled once its faulty runs are over. -/
theorem settles_left_stubborn (n : Nat) (content : String) (m : Nat) :
    Settles ((stubborn n).left 0 content m) ↔ n ≤ m := by
  rw [left_stubborn, Nat.zero_add]
  split
  · next hlt => exact iff_of_false not_settles_bareValue (Nat.not_le.mpr hlt)
  · next hle => exact iff_of_true settles_ok (Nat.not_lt.mp hle)

/-- It is accepted when no reply to one of the faulty runs declines. -/
theorem editLoop_stubborn (n : Nat) (reads : List String) (source : String) :
    (editLoop (stubborn n) false reads source).1 = .accepted ↔ n ≤ agreed (promptLines reads) :=
  (editLoop_promptLines (stubborn_succeeds n) reads source).accepted_iff
    (settles_left_stubborn n source)

/-! ### When standard input has its say -/

/-- **An edit ends as the lines say that its prompts read.** If the runs of the editor end well,
the edit is accepted with the first text that is blank or holds a template, as long as every
prompt before has a line that does not decline; else it is declined at the first prompt that has
none. These lines are not in general those of standard input. They have the same say whatever the
editor does if and only if there are as many before the first that declines. They are the same if
no read goes on behind a line end and no line is too long. -/
theorem editLoop_answers (reads : List String) :
    (∀ (editor : Editor) (source : String), editor.Succeeds →
      let r := editLoop editor false reads source
      Answers (editor.left 0 source) (promptLines reads) r.1 r.2.source) ∧
    ((∀ (editor : Editor) (source : String), editor.Succeeds →
      let r := editLoop editor false reads source
      Answers (editor.left 0 source) (replyLines reads) r.1 r.2.source) ↔
        agreed (promptLines reads) = agreed (replyLines reads)) ∧
    (Linewise reads → promptLines reads = replyLines reads) := by
  refine ⟨fun editor source heditor => editLoop_promptLines heditor reads source, ?_, ?_⟩
  · constructor
    · intro hanswers
      -- An editor that settles at its run `n` tells whether `n` replies agree.
      have hle (n : Nat) : n ≤ agreed (promptLines reads) ↔ n ≤ agreed (replyLines reads) := by
        rw [← editLoop_stubborn n reads ""]
        exact (hanswers (stubborn n) "" (stubborn_succeeds n)).accepted_iff
          (settles_left_stubborn n "")
      exact Nat.le_antisymm ((hle _).mp (Nat.le_refl _)) ((hle _).mpr (Nat.le_refl _))
    · intro hagreed editor source heditor
      exact (answers_congr hagreed _ _).mp (editLoop_promptLines heditor reads source)
  · intro hlinewise
    exact promptLinesFrom_of_linewise List.not_mem_nil hlinewise.ends hlinewise.short

/-- A reply may come in pieces. The third one declines. -/
theorem editLoop_answers_pieces :
    let reads := ["y", "es\n", "\n", "No \n"]
    promptLines reads = ["yes", "", "No "] ∧ Linewise reads ∧ (stubborn 3).Succeeds ∧
      Answers ((stubborn 3).left 0 "") (replyLines reads)
        (editLoop (stubborn 3) false reads "").1
        (editLoop (stubborn 3) false reads "").2.source := by
  intro reads
  have hlinewise : Linewise reads := ⟨by decide +kernel, by decide +kernel⟩
  have hanswers := editLoop_answers reads
  have hsame : promptLines reads = replyLines reads := hanswers.2.2 hlinewise
  refine ⟨by decide +kernel, hlinewise, stubborn_succeeds 3, ?_⟩
  rw [← hsame]
  exact hanswers.1 (stubborn 3) "" (stubborn_succeeds 3)

/-- An editor gives up too early when standard input holds more replies than prompts read. -/
theorem declined_of_agreed_lt {reads : List String} {n : Nat}
    (hprompts : agreed (promptLines reads) < n) (hreplies : n ≤ agreed (replyLines reads))
    (source : String) :
    Answers ((stubborn n).left 0 source) (replyLines reads) .accepted "ok" ∧
      (editLoop (stubborn n) false reads source).1 = .declined := by
  have hanswers := editLoop_promptLines (stubborn_succeeds n) reads source
  have hrejected : (editLoop (stubborn n) false reads source).1 ≠ .accepted :=
    mt (editLoop_stubborn n reads source).mp (Nat.not_le.mpr hprompts)
  constructor
  · rw [answers_iff]
    refine .inl ⟨rfl, n, hreplies, ?_, ?_, ?_⟩
    · exact (settles_left_stubborn n source n).mpr (Nat.le_refl n)
    · intro m hm
      exact mt (settles_left_stubborn n source m).mp (Nat.not_le.mpr hm)
    · rw [left_stubborn, Nat.zero_add, if_neg (Nat.lt_irrefl n)]
      decide +kernel
  · rw [answers_iff] at hanswers
    rcases hanswers with ⟨haccepted, -⟩ | ⟨hdeclined, -⟩
    · exact absurd haccepted hrejected
    · exact hdeclined

/-- No prompt reads a line that does not fit. -/
theorem promptLines_of_not_fits {line : String} (hline : '\n' ∉ line.toList)
    (hlong : fits line = false) : promptLines [line ++ "\n"] = [] := by
  have hread : [] ++ (line ++ "\n").toList = line.toList ++ ['\n'] := String.toList_append
  rw [promptLines, promptLinesFrom_cons hline hread, String.ofList_toList, hlong]
  rfl

/-- A line alone is the only reply on standard input. -/
theorem replyLines_singleton {line : String} (hline : '\n' ∉ line.toList) :
    replyLines [line ++ "\n"] = [line] := by
  have hall : [line ++ "\n"].flatMap String.toList = line.toList ++ '\n' :: [] := by
    simp
  rw [replyLines, hall, inputLines_append hline, String.ofList_toList]
  rfl

/-- The long line does not fit. -/
theorem fits_longLine : fits History.longLine = false := by
  have hsize : 'x'.utf8Size = 1 := by decide
  simp [fits, History.longLine, String.utf8ByteSize, String.ofList, List.utf8Encode, hsize]

/-- As a reply, it does not decline. -/
theorem declines_longLine : declines History.longLine = false := by
  have hblank : isBlank 'x' = false := by decide
  have hlower : lowerChar 'x' = 'x' := by decide
  have htrim : lower (trimBlank History.longLine) = History.longLine := by
    simp [History.longLine, trimBlank, trimBlankChars, lower, hblank, hlower]
  -- The reply is too long to be one of the two that decline.
  have hne {answer : String} (hshort : fits answer = true) : History.longLine ≠ answer := by
    rintro rfl
    exact absurd fits_longLine (by rw [hshort]; decide)
  simp only [declines, htrim, hne (show fits "n" = true by decide),
    hne (show fits "no" = true by decide)]
  rfl

/-- **Replies are lost.** Two replies that come in one read are one reply only: the edit is
declined at its second prompt although there is a reply for it. And a reply that is too long is
none: the edit is declined at its first prompt. -/
theorem editLoop_losesReplies :
    let joined := ["y\ny\n"]
    let long := [History.longLine ++ "\n"]
    (replyLines joined = ["y", "y"] ∧
      Answers ((stubborn 2).left 0 "") (replyLines joined) .accepted "ok" ∧
        (editLoop (stubborn 2) false joined "").1 = .declined) ∧
    (replyLines long = [History.longLine] ∧
      Answers ((stubborn 1).left 0 "") (replyLines long) .accepted "ok" ∧
        (editLoop (stubborn 1) false long "").1 = .declined) := by
  intro joined long
  have hline : '\n' ∉ History.longLine.toList := by simp [History.longLine]
  have hlong : replyLines long = [History.longLine] := replyLines_singleton hline
  have hprompts : promptLines long = [] := promptLines_of_not_fits hline fits_longLine
  have hreplies : agreed (replyLines long) = 1 := by simp [hlong, agreed, declines_longLine]
  refine ⟨⟨by decide +kernel, ?_⟩, hlong, ?_⟩
  · exact declined_of_agreed_lt (by decide +kernel) (by decide +kernel) ""
  · exact declined_of_agreed_lt (by rw [hprompts]; decide) (by rw [hreplies]) ""

end TagScript.Console
