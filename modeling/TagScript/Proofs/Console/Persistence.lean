import Mathlib.Data.List.Dedup
import TagScript.Console.History
import TagScript.Proofs.Text.Blank

/-!
# `TagScript.Proofs.Console.Persistence`: the history and its file

A history that starts without a file is fed with lines. Its entries are then the lines without
the blanks around them, each of them once, in the order in which they were submitted last
(`keepLast`). Blank lines are no entries.

The file is written in two ways: a new entry is appended, and an entry that moves has the whole
file written anew. `History.Stored` says what both come to, and it holds after every line
(`Stored.add`): the entries do not repeat, they have no blanks at their ends and no line feed in
them, and the file has one line for each.

Reading the file splits it into lines and trims these. Of an entry nothing is lost in that
(`entriesOf_contentOf`), with one exception. A line of 65536 bytes or more cannot be read, and
neither can what is behind it. The entries that come back are those before the first that is so
long, and the failure is reported exactly if there is one (`reload_addAll`).
-/

set_option autoImplicit false

namespace TagScript

open Text

namespace Text

/-- A piece that is followed by a separator is the first piece. -/
theorem splitOnChar_append {separator : Char} (piece rest : List Char) (h : separator ∉ piece) :
    splitOnChar separator (piece ++ separator :: rest) = piece :: splitOnChar separator rest := by
  induction piece with
  | nil => rw [List.nil_append, splitOnChar, if_pos rfl]
  | cons c piece ih =>
      obtain ⟨hc, hpiece⟩ := not_or.mp (mt List.mem_cons.mpr h)
      rw [List.cons_append, splitOnChar, if_neg fun heq => hc heq.symm, ih hpiece, consFirst]

end Text

namespace Console

/-! ### The entries -/

/-- The lines without the blanks around them, in the order in which they come last. -/
def keepLast (lines : List String) : List String :=
  ((lines.map trimBlank).filter (· ≠ "")).dedup

/-- A list with a further element keeps the elements in the order in which they come last. -/
theorem dedup_concat (lines : List String) (line : String) :
    (lines ++ [line]).dedup = lines.dedup.erase line ++ [line] := by
  induction lines with
  | nil => rfl
  | cons first lines ih =>
      rw [List.cons_append, List.dedup_cons, List.dedup_cons, ih]
      by_cases hmem : first ∈ lines
      · rw [if_pos (List.mem_append_left _ hmem), if_pos hmem]
      · by_cases heq : first = line
        · subst heq
          rw [if_pos (List.mem_append_right _ List.mem_cons_self), if_neg hmem,
            List.erase_cons_head, List.erase_of_not_mem (mt List.mem_dedup.mp hmem)]
        · have hnew : first ∉ lines ++ [line] := by simp [hmem, heq]
          rw [if_neg hnew, if_neg hmem, List.erase_cons_tail (by simpa using heq),
            List.cons_append]

/-- A line that can be read from a file. -/
def fits (line : String) : Bool := line.utf8ByteSize < lineLimit

/-- The lines up to the first that does not fit are read, with an error when there is one. -/
theorem readableLines_eq (lines : List String) :
    readableLines lines = (lines.takeWhile fits, !lines.all fits) := by
  induction lines with
  | nil => rfl
  | cons line lines ih =>
      rw [readableLines, ih]
      by_cases h : lineLimit ≤ line.utf8ByteSize
      · have hfits : fits line = false := decide_eq_false (Nat.not_lt.mpr h)
        simp [h, hfits]
      · have hfits : fits line = true := decide_eq_true (Nat.not_le.mp h)
        simp [h, hfits]

namespace History

variable {h : History} {entries lines : List String} {entry line : String}

/-- The history after lines were submitted one after another. -/
def addAll (h : History) (lines : List String) : History :=
  lines.foldl (fun h line => (h.add line).1) h

/-- The first line is added before the others. -/
theorem addAll_cons (h : History) (line : String) (lines : List String) :
    h.addAll (line :: lines) = (h.add line).1.addAll lines :=
  List.foldl_cons ..

/-- The last line is added to the history of those before it. -/
theorem addAll_concat (h : History) (lines : List String) (line : String) :
    h.addAll (lines ++ [line]) = ((h.addAll lines).add line).1 :=
  List.foldl_concat ..

/-! ### The file -/

/-- The first entry stands on the first line of the file. -/
theorem contentOf_cons (entry : String) (entries : List String) :
    contentOf (entry :: entries) = entry ++ "\n" ++ contentOf entries := by
  cases entries with
  | nil => simp [contentOf]
  | cons next entries => simp [contentOf]

/-- The file holds the entries one after another, each with its line end. -/
theorem toList_contentOf (entries : List String) :
    (contentOf entries).toList = entries.flatMap fun e => e.toList ++ ['\n'] := by
  induction entries with
  | nil => rfl
  | cons e entries ih => simp [contentOf_cons, ih]

/-- A further entry stands on a line behind the others. -/
theorem contentOf_concat (entries : List String) (entry : String) :
    contentOf (entries ++ [entry]) = contentOf entries ++ entry ++ "\n" := by
  rw [← String.toList_inj]
  simp [toList_contentOf]

/-- What can stand on a line of its own: it has no blanks at its ends and is not empty, and no
line feed is in it. -/
structure Storable (entry : String) : Prop where
  trimmed : Trimmed entry
  ne_empty : entry ≠ ""
  notMem : '\n' ∉ entry.toList

/-- A line that was submitted can be stored without the blanks around it, unless it is blank. -/
theorem storable_trimBlank (hne : trimBlank line ≠ "") (hline : '\n' ∉ line.toList) :
    Storable (trimBlank line) := by
  refine ⟨trimmed_trimBlank line, hne, fun hmem => hline ?_⟩
  rw [trimBlank, String.toList_ofList] at hmem
  exact mem_of_mem_trimBlankChars hmem

/-- The lines of a file are its entries, and an empty one behind the last line feed. -/
theorem lines_contentOf (hentries : ∀ e ∈ entries, Storable e) :
    Text.lines (contentOf entries) = entries ++ [""] := by
  rw [Text.lines, toList_contentOf]
  induction entries with
  | nil => rfl
  | cons e entries ih =>
      obtain ⟨he, hrest⟩ := List.forall_mem_cons.mp hentries
      rw [List.flatMap_cons, List.append_assoc, List.singleton_append,
        splitOnChar_append _ _ he.notMem, List.map_cons, ih hrest, String.ofList_toList,
        List.cons_append]

/-- What is read from a file are the entries that were written, up to the first one that is too
long. -/
theorem entriesOf_contentOf (hentries : ∀ e ∈ entries, Storable e) :
    entriesOf (contentOf entries) = (entries.takeWhile fits, !entries.all fits) := by
  have htrim : (entries.takeWhile fits).map trimBlank = entries.takeWhile fits := by
    refine (List.map_congr_left fun e he => ?_).trans (List.map_id _)
    exact (hentries e (List.takeWhile_subset _ he)).trimmed
  have hfilter : (entries.takeWhile fits).filter (· ≠ "") = entries.takeWhile fits := by
    refine List.filter_eq_self.mpr fun e he => decide_eq_true ?_
    exact (hentries e (List.takeWhile_subset _ he)).ne_empty
  rw [entriesOf, lines_contentOf hentries, readableLines_eq]
  -- The empty line at the end can be read, and is no entry.
  have hblank : ([""].takeWhile fits).map trimBlank = [""] := rfl
  have hfits : fits "" = true := rfl
  simp only [List.takeWhile_append, List.all_append, List.all_cons, List.all_nil, hfits]
  split
  · next hlen =>
      rw [(List.takeWhile_prefix fits).eq_of_length hlen] at htrim hfilter ⊢
      rw [List.map_append, List.filter_append, htrim, hfilter, hblank]
      simp
  · rw [htrim, hfilter]
    simp

/-! ### The invariant -/

/-- The entries do not repeat and can be stored, and the file has one line for each. -/
structure Stored (h : History) : Prop where
  nodup : h.entries.Nodup
  storable : ∀ e ∈ h.entries, Storable e
  storage_eq : ∃ content, h.storage = .file content ∧ content.getD "" = contentOf h.entries

/-- A new history is that of a file that does not exist. -/
theorem stored_new : Stored (new (.file none)) where
  nodup := List.nodup_nil
  storable := fun _ he => nomatch he
  storage_eq := ⟨none, rfl, rfl⟩

/-- A line that is submitted is moved to the end or added there. -/
theorem entries_add (hs : Stored h) (line : String) :
    (h.add line).1.entries
      = if trimBlank line = "" then h.entries
        else h.entries.erase (trimBlank line) ++ [trimBlank line] := by
  unfold add
  by_cases hblank : trimBlank line = ""
  · simp [hblank]
  · by_cases hlast : h.entries.getLast? = some (trimBlank line)
    · -- The newest entry is taken away and comes back to its place.
      obtain ⟨older, holder⟩ := List.getLast?_eq_some_iff.mp hlast
      have hnodup := holder ▸ hs.nodup
      have hnotMem : trimBlank line ∉ older := fun hmem =>
        (List.nodup_append'.mp hnodup).2.2 hmem List.mem_cons_self
      simp [hblank, holder, List.erase_append_right _ hnotMem]
    · simp [hblank, hlast]

/-- So the entries stay those of the lines. -/
theorem entries_add_of_keepLast (hs : Stored h) (hkeep : h.entries = keepLast lines)
    (line : String) : (h.add line).1.entries = keepLast (lines ++ [line]) := by
  rw [entries_add hs, hkeep, keepLast, keepLast, List.map_append, List.filter_append]
  by_cases hblank : trimBlank line = ""
  · simp [hblank]
  · simp [hblank, dedup_concat]

/-- Submitting a line keeps the file in step with the entries. -/
theorem Stored.add (hs : Stored h) (hline : '\n' ∉ line.toList) : Stored (h.add line).1 := by
  by_cases hsame : trimBlank line = "" ∨ h.entries.getLast? = some (trimBlank line)
  · have hadd : h.add line = (h, none) := by simp [History.add, hsame]
    rw [hadd]
    exact hs
  · obtain ⟨hblank, hlast⟩ := not_or.mp hsame
    have hentries := entries_add hs line
    rw [if_neg hblank] at hentries
    refine ⟨?_, ?_, ?_⟩
    · rw [hentries]
      refine List.nodup_append'.mpr ⟨hs.nodup.erase _, List.nodup_singleton _, ?_⟩
      rw [List.disjoint_singleton]
      exact hs.nodup.not_mem_erase
    · rw [hentries]
      intro e he
      rcases List.mem_append.mp he with hold | hnew
      · exact hs.storable e (List.mem_of_mem_erase hold)
      · rw [List.mem_singleton.mp hnew]
        exact storable_trimBlank hblank hline
    · obtain ⟨content, hstorage, hcontent⟩ := hs.storage_eq
      by_cases hmem : trimBlank line ∈ h.entries
      · -- The entry moves, and the file is written anew.
        refine ⟨some (contentOf (h.add line).1.entries), ?_, Option.getD_some⟩
        simp [History.add, hblank, hlast, save, hstorage, hmem]
      · -- The entry is new, and is appended to the file.
        refine ⟨some (content.getD "" ++ trimBlank line ++ "\n"), ?_, ?_⟩
        · simp [History.add, hblank, hlast, save, hstorage, hmem]
        · rw [hentries, List.erase_of_not_mem hmem, contentOf_concat, hcontent]
          rfl

/-- Reading the file again. -/
theorem reload_of_stored (hs : Stored h) :
    h.reopen.load
      = (⟨h.entries.takeWhile fits, h.storage⟩,
          if h.entries.all fits then none else some (.ofText lineTooLong)) := by
  obtain ⟨content, hstorage, hcontent⟩ := hs.storage_eq
  cases content with
  | none =>
      -- No file was written, so there are no entries.
      have hnone : h.entries = [] := by
        cases hentries : h.entries with
        | nil => rfl
        | cons e entries =>
            rw [hentries, contentOf_cons, ← String.toList_inj] at hcontent
            simp at hcontent
      simp [reopen, new, load, hstorage, hnone]
  | some content =>
      rw [Option.getD_some] at hcontent
      simp only [reopen, new, load, hstorage, hcontent, entriesOf_contentOf hs.storable]
      cases h.entries.all fits <;> rfl

/-- Every line leaves a history as it should be. -/
theorem stored_addAll (hs : Stored h) (hlines : ∀ line ∈ lines, '\n' ∉ line.toList) :
    Stored (h.addAll lines) := by
  induction lines generalizing h with
  | nil => exact hs
  | cons line lines ih =>
      obtain ⟨hline, hrest⟩ := List.forall_mem_cons.mp hlines
      rw [addAll_cons]
      exact ih (hs.add hline) hrest

/-- The entries are the lines that are not blank, in the order in which they come last. -/
theorem entries_addAll (hlines : ∀ line ∈ lines, '\n' ∉ line.toList) :
    ((new (.file none)).addAll lines).entries = keepLast lines := by
  induction lines using List.reverseRecOn with
  | nil => rfl
  | append_singleton lines line ih =>
      have hbefore : ∀ l ∈ lines, '\n' ∉ l.toList := fun l hl =>
        hlines l (List.mem_append_left _ hl)
      rw [addAll_concat]
      exact entries_add_of_keepLast (stored_addAll stored_new hbefore) (ih hbefore) line

/-- **The history and its file.** A history begins without a file and is given lines in which
there is no line feed. Its entries are the lines without the blanks around them and without the
blank ones, each of them once, in the order in which they came last. A new history in the same
place reads these entries, as far as they can be read: up to the first of 65536 bytes or more. It
fails exactly if there is one. -/
theorem reload_addAll (lines : List String) (hlines : ∀ line ∈ lines, '\n' ∉ line.toList) :
    let h := (new (.file none)).addAll lines
    h.entries = keepLast lines ∧
      h.reopen.load
        = (⟨h.entries.takeWhile fits, h.storage⟩,
            if h.entries.all fits then none else some (.ofText lineTooLong)) :=
  ⟨entries_addAll hlines, reload_of_stored (stored_addAll stored_new hlines)⟩

/-- A line that comes again, with other blanks around it. -/
theorem reload_addAll_repeated :
    (∀ line ∈ [" a", "b", "", "a\t"], '\n' ∉ line.toList) ∧
      let h := (new (.file none)).addAll [" a", "b", "", "a\t"]
      h.entries = ["b", "a"] ∧ h.reopen.load = (h, none) := by
  have hlines : ∀ line ∈ [" a", "b", "", "a\t"], '\n' ∉ line.toList := by decide
  refine ⟨hlines, ?_⟩
  intro h
  obtain ⟨hentries, hload⟩ : _ ∧ h.reopen.load = _ := reload_addAll _ hlines
  have hkept : h.entries = ["b", "a"] := hentries.trans (by decide)
  have hfits : h.entries.all fits := by
    rw [hkept]
    decide
  have htake : h.entries.takeWhile fits = h.entries :=
    List.takeWhile_eq_self_iff.mpr (List.all_eq_true.mp hfits)
  refine ⟨hkept, hload.trans ?_⟩
  rw [if_pos hfits, htake]

/-- A line that is too long to be read again. -/
def longLine : String := String.ofList (List.replicate lineLimit 'x')

/-- **A long line is lost.** It becomes an entry of the history that it is given to. A new history
in the same place cannot read it. -/
theorem reload_longLine :
    '\n' ∉ longLine.toList ∧
      let h := (new (.file none)).addAll [longLine]
      h.entries = [longLine] ∧
        h.reopen.load = (⟨[], h.storage⟩, some (.ofText lineTooLong)) := by
  have hline : '\n' ∉ longLine.toList := by simp [longLine]
  have htrim : trimBlank longLine = longLine := by
    have hblank : isBlank 'x' = false := by decide
    simp [longLine, trimBlank, trimBlankChars, hblank]
  have hfits : fits longLine = false := by
    have hsize : 'x'.utf8Size = 1 := by decide
    simp [fits, longLine, String.utf8ByteSize, String.ofList, List.utf8Encode, hsize]
  have hentries : ((new (.file none)).addAll [longLine]).entries = [longLine] := by
    rw [entries_addAll (by simpa using hline), keepLast, List.map_singleton, htrim]
    have hne : longLine ≠ "" := by
      rintro heq
      rw [heq] at hfits
      cases hfits
    simp [hne]
  refine ⟨hline, hentries, ?_⟩
  rw [reload_of_stored (stored_addAll stored_new (by simpa using hline)), hentries]
  simp [hfits]

end History

end Console

end TagScript
