import TagScript.Console.Completion
import TagScript.Proofs.Text.Width

/-!
# `TagScript.Proofs.Console.Bar`: what the bar of completions shows, and its width

The bar shows the first completions in order, with an ellipsis behind them if some are left out
(`bar_shows`). `Cut` says how many: a completion behind the first one is shown if an ellipsis right
behind it would fit. But a gap stands in front of the ellipsis, and this is where the bar gets too
wide: cut behind two completions or more, it may take up to `gapWidth` columns more than there are
(`candidateBar_fits`).

The widths of completions add up (`width_row_gap_le`) whatever characters they have, because two
spaces keep them apart.
-/

set_option autoImplicit false

namespace TagScript.Console

open Text

variable {palette : Palette} {available : Int} {rows : List Row}

/-! ### Widths of rows -/

/-- A running maximum of widths stays within a bound if it began there and every line does. -/
theorem foldl_max_le_iff (lines : List (List Char)) (n w : Nat) :
    lines.foldl (fun w line => max w (width line)) n ≤ w
      ↔ n ≤ w ∧ ∀ line ∈ lines, width line ≤ w := by
  induction lines generalizing n with
  | nil => simp
  | cons line lines ih =>
    rw [List.foldl_cons, ih, Nat.max_le, List.forall_mem_cons, and_assoc]

/-- The widest of lines is within a bound if every line is. -/
theorem widest_le_iff {lines : List (List Char)} {w : Nat} :
    widest lines ≤ w ↔ ∀ line ∈ lines, width line ≤ w := by
  rw [widest, foldl_max_le_iff]
  exact and_iff_right (Nat.zero_le w)

/-- Each line of two texts with a gap between them is a line of one of them, or the last line of the
first with the first line of the second. -/
theorem widest_append_gap_le (xs ys : List Char) :
    widest (splitOnChar '\n' (xs ++ ' ' :: ' ' :: ys))
      ≤ widest (splitOnChar '\n' xs) + 2 + widest (splitOnChar '\n' ys) := by
  obtain ⟨initial, last, first, rest, hxs, hgap, happend⟩ :=
    exists_splitOnChar_append '\n' xs (' ' :: ' ' :: ys)
  obtain ⟨line, lines, hys⟩ := List.exists_cons_of_ne_nil (splitOnChar_ne_nil '\n' ys)
  have hfirst : ' ' :: ' ' :: line = first ∧ lines = rest := by
    simpa [splitOnChar, hys, consFirst] using hgap
  obtain ⟨rfl, rfl⟩ := hfirst
  have hleft := widest_le_iff.mp (Nat.le_refl (widest (splitOnChar '\n' xs)))
  have hright := widest_le_iff.mp (Nat.le_refl (widest (splitOnChar '\n' ys)))
  rw [hxs, List.forall_mem_append, List.forall_mem_singleton] at hleft
  rw [hys, List.forall_mem_cons] at hright
  rw [happend, widest_le_iff, hxs, hys]
  -- Only the line in which the gap stands belongs to both texts.
  intro joined hjoined
  rcases List.mem_append.mp hjoined with hmem | hmem
  · have := hleft.1 joined hmem
    omega
  · rcases List.mem_cons.mp hmem with rfl | hmem
    · have := width_append_gap_le last line
      omega
    · have := hright.2 joined hmem
      omega

/-- A painted row is its painted segments one after another. -/
theorem toList_paint (palette : Palette) (row : Row) :
    (row.paint palette).toList = row.flatMap fun s => (s.paint palette).toList := by
  induction row with
  | nil => rfl
  | cons s row ih =>
    rw [List.flatMap_cons, ← ih, Row.paint, Row.paint, List.map_cons]
    cases row with
    | nil => simp
    | cons next others => simp [String.intercalate_cons_cons]

/-- Two rows with a gap between them are at most as wide as the rows and the gap together. -/
theorem width_row_gap_le (palette : Palette) (row more : Row) :
    Row.width palette (row ++ gap :: more)
      ≤ row.width palette + gapWidth + Row.width palette more := by
  have hgap : (gap.paint palette).toList = [' ', ' '] := by
    show "  ".toList = _
    decide
  rw [Row.width, Row.width, Row.width, toList_paint, toList_paint, toList_paint,
    List.flatMap_append, List.flatMap_cons, hgap]
  exact widest_append_gap_le _ _

/-- The ellipsis is as wide as it is counted. -/
theorem width_ellipsis (palette : Palette) : Row.width palette [ellipsis] = ellipsisWidth := by
  cases palette <;> decide +kernel

/-! ### Rows with gaps between them -/

/-- Rows with gaps between them. -/
def spaced : List Row → Row
  | [] => []
  | row :: rest => row ++ rest.flatMap (gap :: ·)

/-- The columns of rows, each with a gap in front of it. -/
def gappedWidth (palette : Palette) : List Row → Nat
  | [] => 0
  | row :: rest => row.width palette + gapWidth + gappedWidth palette rest

/-- The columns of rows and of the gaps between them, one by one. -/
def spacedWidth (palette : Palette) : List Row → Nat
  | [] => 0
  | row :: rest => row.width palette + gappedWidth palette rest

/-- What a bar ends with when it shows the first of some rows. -/
def ending (shown : Nat) (rows : List Row) : Row :=
  if shown < rows.length then [gap, ellipsis] else []

/-- Rows with gaps between them, and something behind them, take no more columns than each on its
own, if the last of the rows and what is behind it do not. -/
theorem width_spaced_append_le {more : Row} {extra : Nat}
    (hmore : ∀ row : Row, Row.width palette (row ++ more) ≤ row.width palette + extra)
    (row : Row) (rest : List Row) :
    Row.width palette (spaced (row :: rest) ++ more)
      ≤ spacedWidth palette (row :: rest) + extra := by
  induction rest generalizing row with
  | nil => simpa [spaced, spacedWidth, gappedWidth] using hmore row
  | cons next rest ih =>
    -- The gap parts the first row from all others, which are shorter by one row.
    have hsplit : spaced (row :: next :: rest) ++ more
        = row ++ gap :: (spaced (next :: rest) ++ more) := by
      simp [spaced]
    have hgap := width_row_gap_le palette row (spaced (next :: rest) ++ more)
    have hrest := ih next
    simp only [spacedWidth, gappedWidth] at hrest ⊢
    rw [hsplit]
    omega

/-- The ending of a bar takes a gap and the ellipsis if rows are left out, and no room otherwise. -/
theorem width_append_ending_le (palette : Palette) (shown : Nat) (rows : List Row) (row : Row) :
    Row.width palette (row ++ ending shown rows)
      ≤ row.width palette + if shown < rows.length then gapWidth + ellipsisWidth else 0 := by
  unfold ending
  split
  · have hgap := width_row_gap_le palette row [ellipsis]
    rw [width_ellipsis] at hgap
    omega
  · exact Nat.le_of_eq (by rw [List.append_nil, Nat.add_zero])

/-! ### Where the bar is cut -/

/-- The bar shows some of the rows, from the first on: each one behind the first has room for an
ellipsis right behind it, and the next one has not. -/
structure Cut (palette : Palette) (available : Int) (rows : List Row) (shown : Nat) : Prop where
  pos : 1 ≤ shown
  le : shown ≤ rows.length
  room : 2 ≤ shown → spacedWidth palette (rows.take shown) + ellipsisWidth ≤ available
  full : shown < rows.length →
    available < spacedWidth palette (rows.take (shown + 1)) + ellipsisWidth

/-- The walk behind the first row shows the next rows as long as the ellipsis would still fit behind
each, and ends as a bar that shows this many. -/
theorem barRest_shows (palette : Palette) (available : Int) (used : Nat) (rows : List Row) :
    ∃ shown ≤ rows.length,
      barRest palette available used rows
        = (rows.take shown).flatMap (gap :: ·) ++ ending shown rows ∧
      (1 ≤ shown → used + gappedWidth palette (rows.take shown) + ellipsisWidth ≤ available) ∧
      (shown < rows.length →
        available < used + gappedWidth palette (rows.take (shown + 1)) + ellipsisWidth) := by
  induction rows generalizing used with
  | nil => exact ⟨0, Nat.le_refl _, rfl, by simp, by simp⟩
  | cons row rest ih =>
    rw [barRest]
    -- The walk stops at this row when the ellipsis would not fit behind it, and otherwise goes on.
    by_cases hfull : available < used + ↑(row.width palette + gapWidth) + ellipsisWidth
    · refine ⟨0, Nat.zero_le _, ?_, by simp, fun _ => ?_⟩
      · rw [if_pos hfull]
        simp [ending]
      · simpa [gappedWidth] using hfull
    · obtain ⟨shown, hle, hbar, hroom, hcut⟩ := ih (used + (row.width palette + gapWidth))
      refine ⟨shown + 1, by simpa using hle, ?_, fun _ => ?_, fun hlt => ?_⟩
      · simp only [if_neg hfull, hbar]
        simp [ending]
      · rcases Nat.eq_zero_or_pos shown with rfl | hpos
        · simpa [gappedWidth] using Int.not_lt.mp hfull
        · have := hroom hpos
          simp only [gappedWidth, List.take_succ_cons] at this ⊢
          push_cast at this ⊢
          omega
      · have := hcut (by simpa using hlt)
        simp only [gappedWidth, List.take_succ_cons] at this ⊢
        push_cast at this ⊢
        omega

/-- The bar shows rows up to where it is cut, with gaps between them, and its ending. -/
theorem bar_shows (palette : Palette) (hne : rows ≠ []) (havailable : 0 < available) :
    ∃ shown, Cut palette available rows shown ∧
      bar palette available rows = spaced (rows.take shown) ++ ending shown rows := by
  cases rows with
  | nil => exact absurd rfl hne
  | cons row rest =>
    obtain ⟨shown, hle, hbar, hroom, hcut⟩ :=
      barRest_shows palette available (row.width palette) rest
    refine ⟨shown + 1, ⟨Nat.le_add_left _ _, by simpa using hle, fun htwo => ?_, fun hlt => ?_⟩, ?_⟩
    · simpa [spacedWidth] using hroom (by omega)
    · simpa [spacedWidth] using hcut (by simpa using hlt)
    · rw [bar, if_neg (by omega), hbar]
      simp [spaced, ending]

/-! ### The bar of completions -/

/-- The completions of the bar, the selected one set off. -/
def candidateRows (matched : List Match) (selected : Option Nat) : List Row :=
  matched.mapIdx fun i m => candidateRow m (selected = some i)

/-- **The bar.** With any completions, and room for the first of them, a gap and an ellipsis, the
bar shows the first completions in order, and an ellipsis behind them if and only if some are left
out. It takes at most `gapWidth` columns more than there are. It does not take more than there are
unless it is cut behind at least two completions that do not leave room for a gap and an ellipsis.
-/
theorem candidateBar_fits {palette : Palette} {matched : List Match} {selected : Option Nat}
    {available : Int} (hne : matched ≠ [])
    (hroom : ∀ row ∈ (candidateRows matched selected).head?,
      row.width palette + gapWidth + ellipsisWidth ≤ available) :
    let rows := candidateRows matched selected
    let shownBar := candidateBar palette matched selected available
    ∃ shown, Cut palette available rows shown ∧
      shownBar = spaced (rows.take shown) ++ ending shown rows ∧
      shownBar.width palette ≤ available + gapWidth ∧
      (available < shownBar.width palette → 2 ≤ shown ∧ shown < rows.length ∧
        available < spacedWidth palette (rows.take shown) + gapWidth + ellipsisWidth) := by
  intro rows shownBar
  have hrows : rows ≠ [] := by
    intro hnil
    exact hne (List.mapIdx_eq_nil_iff.mp hnil)
  obtain ⟨first, rest, hcons⟩ := List.exists_cons_of_ne_nil hrows
  have hfirst : (first.width palette : Int) + gapWidth + ellipsisWidth ≤ available :=
    hroom first (by rw [show candidateRows matched selected = first :: rest from hcons]; rfl)
  have havailable : 0 < available := by
    have : (0 : Int) ≤ first.width palette := Int.natCast_nonneg _
    simp only [gapWidth, ellipsisWidth] at hfirst
    omega
  obtain ⟨shown, hcut, hbar⟩ := bar_shows palette hrows havailable
  have htake : rows.take shown = first :: rest.take (shown - 1) := by
    obtain ⟨before, rfl⟩ : ∃ before, shown = before + 1 := ⟨shown - 1, by have := hcut.pos; omega⟩
    rw [hcons, List.take_succ_cons, Nat.add_sub_cancel]
  have hwidth : shownBar.width palette ≤ spacedWidth palette (rows.take shown) +
      if shown < rows.length then gapWidth + ellipsisWidth else 0 := by
    rw [show shownBar = spaced (rows.take shown) ++ ending shown rows from hbar, htake]
    exact width_spaced_append_le (width_append_ending_le palette shown rows) first _
  have hending : (if shown < rows.length then gapWidth + ellipsisWidth else 0)
      ≤ gapWidth + ellipsisWidth := by
    split <;> omega
  refine ⟨shown, hcut, hbar, ?_⟩
  rcases Nat.lt_or_ge shown 2 with hone | htwo
  · -- The first completion alone leaves room for a gap and an ellipsis.
    have hspaced : spacedWidth palette (rows.take shown) = first.width palette := by
      obtain rfl : shown = 1 := by
        have := hcut.pos
        omega
      rw [htake, Nat.sub_self, List.take_zero]
      rfl
    have hfits : shownBar.width palette ≤ available := by omega
    exact ⟨by omega, fun hover => absurd hover (by omega)⟩
  · -- Behind more of them there is room for the ellipsis, but not always for the gap too.
    have hellipsis := hcut.room htwo
    refine ⟨by omega, fun hover => ⟨htwo, ?_, by omega⟩⟩
    refine Nat.lt_of_not_ge fun hall => ?_
    rw [if_neg (Nat.not_lt.mpr hall)] at hwidth
    omega

/-- With 15 columns the tags are cut behind two of them, which leave just enough room. -/
theorem candidateBar_fits_tags :
    let matched := tagNames.map Match.ofText
    matched ≠ [] ∧
    (∀ row ∈ (candidateRows matched (some 1)).head?,
      row.width .ansi + gapWidth + ellipsisWidth ≤ (15 : Int)) ∧
    ∃ shown, Cut .ansi 15 (candidateRows matched (some 1)) shown ∧
      candidateBar .ansi matched (some 1) 15
        = spaced ((candidateRows matched (some 1)).take shown)
          ++ ending shown (candidateRows matched (some 1)) ∧
      (Row.width .ansi (candidateBar .ansi matched (some 1) 15) : Int) ≤ 15 + gapWidth ∧
      (15 < (Row.width .ansi (candidateBar .ansi matched (some 1) 15) : Int) →
        2 ≤ shown ∧ shown < (candidateRows matched (some 1)).length ∧
        15 < (spacedWidth .ansi ((candidateRows matched (some 1)).take shown) : Int)
          + gapWidth + ellipsisWidth) := by
  intro matched
  have hne : matched ≠ [] := by decide
  have hroom : ∀ row ∈ (candidateRows matched (some 1)).head?,
      row.width .ansi + gapWidth + ellipsisWidth ≤ (15 : Int) := by
    decide +kernel
  exact ⟨hne, hroom, candidateBar_fits hne hroom⟩

/-- With 13 columns the tags are cut behind two of them as well, and the bar takes 15. -/
theorem candidateBar_overruns :
    let matched := tagNames.map Match.ofText
    let shownBar := candidateBar .plain matched none 13
    (∀ row ∈ (candidateRows matched none).head?,
      row.width .plain + gapWidth + ellipsisWidth ≤ (13 : Int)) ∧
    shownBar.paint .plain = "cond  defn  ..." ∧ shownBar.width .plain = 15 := by
  decide +kernel

end TagScript.Console
