import TagScript.Decimal.Layout
import TagScript.Log.Time
import TagScript.Text.Case
import TagScript.Text.Quoted

/-!
# `TagScript.Proofs.Text.OneLine`: texts without line feeds

A text stands on one line if it has no line feed (`OnOneLine`). Quoting any text gives such a text
(`onOneLine_quote`), because a line feed is not printable and so is written as an escape. Numbers,
points of time in a layout and spans of time are such texts too.
-/

set_option autoImplicit false

namespace TagScript.Text

/-- A text without line feeds. -/
def OnOneLine (s : String) : Prop := '\n' ∉ s.toList

variable {s t : String} {cs : List Char}

instance (s : String) : Decidable (OnOneLine s) := inferInstanceAs (Decidable ('\n' ∉ s.toList))

/-! ### Texts put together -/

/-- Texts put together take one line when both do. -/
@[simp] theorem onOneLine_append : OnOneLine (s ++ t) ↔ OnOneLine s ∧ OnOneLine t := by
  simp [OnOneLine]

/-- Characters take one line when there is no line feed among them. -/
@[simp] theorem onOneLine_ofList : OnOneLine (String.ofList cs) ↔ '\n' ∉ cs := by
  simp [OnOneLine]

/-- The empty text takes one line. -/
@[simp] theorem onOneLine_empty : OnOneLine "" := by decide

/-- Texts put together take one line when each of them does. -/
theorem onOneLine_join (parts : List String) :
    OnOneLine ("".intercalate parts) ↔ ∀ part ∈ parts, OnOneLine part := by
  induction parts with
  | nil => simp
  | cons part parts ih =>
    cases parts with
    | nil => simp
    | cons next others =>
      rw [String.intercalate_cons_cons, onOneLine_append, onOneLine_append, ih,
        List.forall_mem_cons]
      simp

/-! ### Quoted texts -/

/-- A digit is no line feed. -/
theorem hexDigit_ne_lineFeed {n : Nat} (hn : n < 16) : hexDigit n ≠ '\n' := by
  have hall : ∀ n < 16, hexDigit n ≠ '\n' := by decide
  exact hall n hn

/-- There is no line feed in a hexadecimal number. -/
theorem lineFeed_notMem_hexPadded (width n : Nat) : '\n' ∉ hexPadded width n := by
  induction width generalizing n with
  | zero => simp [hexPadded]
  | succ width ih =>
    have hdigit := hexDigit_ne_lineFeed (Nat.mod_lt n (by decide : 16 > 0))
    simp [hexPadded, ih, hdigit.symm]

/-- There is none in a character that is quoted, whichever it is. -/
theorem lineFeed_notMem_quoteChar (c : Char) : '\n' ∉ quoteChar c := by
  unfold quoteChar
  split
  · decide
  · decide
  · split
    · next hprintable =>
      have hc : c ≠ '\n' := by
        rintro rfl
        exact absurd hprintable (by decide)
      simp [hc.symm]
    · split <;> try decide
      split
      · simp [lineFeed_notMem_hexPadded]
      · split <;> simp [lineFeed_notMem_hexPadded]

/-- A quoted text takes one line. -/
theorem onOneLine_quote (s : String) : OnOneLine (quote s) := by
  rw [quote, onOneLine_ofList]
  simp [lineFeed_notMem_quoteChar]

/-! ### Capitals -/

/-- A code above that of the line feed is that of another character, or of none. -/
theorem ofNat_ne_lineFeed {n : Nat} (hn : 10 < n) : Char.ofNat n ≠ '\n' := by
  by_cases hvalid : n.isValidChar
  · rw [Char.ofNat, dif_pos hvalid]
    intro heq
    have htoNat : n = 10 := congrArg Char.toNat heq
    omega
  · rw [Char.ofNat, dif_neg hvalid]
    decide

/-- The capital of a character other than the line feed is no line feed. -/
theorem upperChar_ne_lineFeed {c : Char} (hc : c ≠ '\n') : upperChar c ≠ '\n' := by
  have hruns : ∀ r ∈ upperRuns, 10 < (r.1 : Int) + r.2.2.2 := by decide +kernel
  unfold upperChar
  split
  · split
    · next hsmall =>
      refine ofNat_ne_lineFeed ?_
      have ha : 97 ≤ c.toNat := by
        have := (Bool.and_eq_true _ _ ▸ hsmall).1
        exact of_decide_eq_true this
      omega
    · exact hc
  · unfold shift
    split
    · next first last step distance hfind =>
      have hmem := List.mem_of_find?_eq_some hfind
      have hfirst := List.find?_some hfind
      have hrun := hruns _ hmem
      refine ofNat_ne_lineFeed ?_
      simp only [Bool.and_eq_true, decide_eq_true_eq] at hfirst hrun
      omega
    · exact hc

/-- A text takes one line in capitals when it does so itself. -/
theorem onOneLine_upper (hs : OnOneLine s) : OnOneLine (upper s) := by
  rw [upper, onOneLine_ofList, List.mem_map]
  rintro ⟨c, hc, heq⟩
  exact upperChar_ne_lineFeed (fun h => hs (h ▸ hc)) heq

end TagScript.Text

/-! ### Numbers -/

namespace TagScript.Decimal

open Text

/-- There is no line feed among digits. -/
theorem lineFeed_notMem_digitsOf (n : Nat) : '\n' ∉ digitsOf n := by
  intro hmem
  have hdigit := Nat.isDigit_of_mem_toDigits (by decide) (by decide) hmem
  exact absurd hdigit (by decide)

/-- A number takes one line. -/
theorem onOneLine_repr (n : Nat) : OnOneLine n.repr := by
  rw [OnOneLine, Nat.toList_repr]
  exact lineFeed_notMem_digitsOf n

/-- So does an integer. -/
theorem onOneLine_int (n : Int) : OnOneLine (toString n) := by
  cases n with
  | ofNat n => exact onOneLine_repr n
  | negSucc n => exact onOneLine_append.mpr ⟨by decide, onOneLine_repr (n + 1)⟩

/-- There is no line feed in digits with a point among them. -/
theorem lineFeed_notMem_positional {digits : List Char} (hdigits : '\n' ∉ digits) (leading : Int) :
    '\n' ∉ positional digits leading := by
  have htake : ∀ n, '\n' ∉ digits.take n := fun n h => hdigits (List.mem_of_mem_take h)
  have hdrop : ∀ n, '\n' ∉ digits.drop n := fun n h => hdigits (List.mem_of_mem_drop h)
  unfold positional
  split
  · simp [hdigits]
  · dsimp only
    split
    · simp [hdigits]
    · simp [htake, hdrop]

/-- Nor is there one when an exponent stands behind them. -/
theorem lineFeed_notMem_exponential (width : Nat) {digits : List Char} (hdigits : '\n' ∉ digits)
    (leading : Int) : '\n' ∉ exponential width digits leading := by
  have hsize := lineFeed_notMem_digitsOf leading.natAbs
  have hsign : '\n' ≠ if leading < 0 then '-' else '+' := by
    split <;> decide
  unfold exponential
  match digits with
  | [] => simp [hsize, hsign]
  | [d] => simp_all
  | d :: e :: rest => simp_all

/-- A number stands on one line when the words of its layout do. -/
theorem onOneLine_write {l : Layout} (hmark : OnOneLine l.wholeMark) (hnan : OnOneLine l.nan)
    (hinfinity : OnOneLine l.infinity) (hnegative : OnOneLine l.negativeInfinity) (x : Float) :
    OnOneLine (l.write x) := by
  rw [Layout.write]
  cases Reading.ofFloat x with
  | nan => exact hnan
  | infinite negative =>
    cases negative with
    | false => exact hinfinity
    | true => exact hnegative
  | finite negative b =>
    have hdigits := lineFeed_notMem_digitsOf (shortest b).coefficient
    have hsign : OnOneLine (if negative then "-" else "") := by split <;> decide
    have hzero : OnOneLine (if negative && l.signedZero then "-0" else "0") := by split <;> decide
    simp only [Layout.writeReading]
    split
    · exact onOneLine_append.mpr ⟨hzero, hmark⟩
    · split
      · refine onOneLine_append.mpr ⟨onOneLine_append.mpr ⟨hsign, ?_⟩, ?_⟩
        · exact onOneLine_ofList.mpr (lineFeed_notMem_positional hdigits _)
        · split
          · exact onOneLine_empty
          · exact hmark
      · exact onOneLine_append.mpr
          ⟨hsign, onOneLine_ofList.mpr (lineFeed_notMem_exponential _ hdigits _)⟩

end TagScript.Decimal

/-! ### Points and spans of time -/

namespace TagScript.Log

open Decimal Text

/-- A padded number takes one line, unless it is padded with line feeds. -/
theorem onOneLine_padded {fill : Char} (hfill : fill ≠ '\n') (width n : Nat) :
    OnOneLine (padded fill width n) := by
  rw [padded, onOneLine_ofList]
  simp [lineFeed_notMem_digitsOf, hfill.symm]

/-- A point of time takes one line in the layout of seconds. -/
theorem onOneLine_secondsLayout (t : Int) : OnOneLine (formatTime secondsLayout t) := by
  have hparts : layoutParts secondsLayout
      = [.longYear, .literal '-', .zeroMonth, .literal '-', .zeroDay, .literal 'T', .hour,
          .literal ':', .zeroMinute, .literal ':', .zeroSecond, .isoZone] := by
    decide +kernel
  have hzeros := onOneLine_padded (by decide : '0' ≠ '\n')
  have hyear : ∀ year, OnOneLine (yearText year) := by
    intro year
    refine onOneLine_append.mpr ⟨?_, hzeros 4 year.natAbs⟩
    split <;> decide
  rw [formatTime, hparts, onOneLine_join]
  simp [LayoutPart.text, hzeros, hyear]
  decide

/-- A decimal fraction takes one line. -/
theorem onOneLine_decimalText (n decimals : Nat) : OnOneLine (decimalText n decimals) := by
  have hdigits : '\n' ∉ (padded '0' decimals (n % Nat.pow 10 decimals)).toList :=
    onOneLine_padded (by decide) _ _
  rw [decimalText, onOneLine_append]
  refine ⟨onOneLine_repr _, ?_⟩
  generalize (padded '0' decimals (n % Nat.pow 10 decimals)).toList = digits at hdigits ⊢
  have hshown : '\n' ∉ if decimals = 0 then []
      else (digits.reverse.dropWhile (· == '0')).reverse := by
    split
    · exact List.not_mem_nil
    · -- Only zeros at the end are dropped.
      rw [List.mem_reverse]
      exact fun hmem => hdigits (List.mem_reverse.mp ((List.dropWhile_suffix _).mem hmem))
  generalize (if decimals = 0 then [] else (digits.reverse.dropWhile (· == '0')).reverse) = shown
    at hshown ⊢
  split
  · exact onOneLine_empty
  · exact onOneLine_append.mpr ⟨by decide, onOneLine_ofList.mpr hshown⟩

/-- A span of time takes one line. -/
theorem onOneLine_spanText (n : Nat) : OnOneLine (spanText n) := by
  have hunit : ∀ unit ∈ ["ns", "µs", "ms", "s", "m", "h"], OnOneLine unit := by decide
  unfold spanText
  split
  · simp [onOneLine_repr, hunit]
  split
  · simp [onOneLine_decimalText, hunit]
  split
  · simp [onOneLine_decimalText, hunit]
  dsimp only
  split
  · simp [onOneLine_decimalText, hunit]
  split <;> simp [onOneLine_decimalText, onOneLine_repr, hunit]

/-- So does a span of time with a sign. -/
theorem onOneLine_durationText (nanoseconds : Int) : OnOneLine (durationText nanoseconds) := by
  unfold durationText
  split
  · decide
  · refine onOneLine_append.mpr ⟨?_, onOneLine_spanText _⟩
    split <;> decide

end TagScript.Log
