import TagScript.Proofs.Log.Pieces
import TagScript.Proofs.Text.OneLine

/-!
# `TagScript.Proofs.Log.OneLine`: records that take one line

The coloured form should write a record on one line, whatever it holds. Texts that hold a line feed
are quoted, and numbers, times and levels hold none. But errors and runtime values are written by
their texts as they are (`bareTexts`), and these may hold line feeds. As long as keys and groups
hold none, a record takes one line if and only if none of its bare texts, and none of the logger's
own attributes, holds a line feed (`line_isLine_iff`).
-/

set_option autoImplicit false

namespace TagScript.Log

open Decimal Text

/-! ### Keys and bare texts -/

mutual

/-- The keys of a group's attributes, at every depth. -/
def Datum.keys : Datum → List String
  | .group inner => keysOf inner
  | .report inner => keysOf inner
  | _ => []

/-- The keys of attributes, at every depth. -/
def keysOf : List (String × Datum) → List String
  | [] => []
  | (key, d) :: rest => key :: (d.keys ++ keysOf rest)

end

mutual

/-- The texts that are written as they are: those of errors and of runtime values. -/
def Datum.bareTexts : Datum → List String
  | .failure message => [message]
  | .value v => [v.display]
  | .group inner => bareTextsOf inner
  | .report inner => bareTextsOf inner
  | _ => []

/-- The texts of attributes that are written as they are. -/
def bareTextsOf : List (String × Datum) → List String
  | [] => []
  | (_, d) :: rest => d.bareTexts ++ bareTextsOf rest

end

/-- The keys of attributes put together are those of both. -/
theorem keysOf_append (fs gs : List Field) : keysOf (fs ++ gs) = keysOf fs ++ keysOf gs := by
  induction fs with
  | nil => rfl
  | cons f fs ih => simp [keysOf, ih]

/-- So are the texts that are written as they are. -/
theorem bareTextsOf_append (fs gs : List Field) :
    bareTextsOf (fs ++ gs) = bareTextsOf fs ++ bareTextsOf gs := by
  induction fs with
  | nil => rfl
  | cons f fs ih => simp [bareTextsOf, ih]

/-! ### One value -/

/-- A text is written on one line: where it holds a line feed it is quoted. -/
theorem onOneLine_prettyText (s : String) : OnOneLine (prettyText s) := by
  unfold prettyText
  split
  · exact onOneLine_quote s
  · next hplain =>
    rw [not_or, Bool.not_eq_true, List.any_eq_false] at hplain
    exact fun hmem => hplain.2 '\n' hmem (by decide)

/-- The label of a level takes one line. -/
theorem onOneLine_levelLabel (level : Int) : OnOneLine (levelLabel level) := by
  refine onOneLine_upper ?_
  unfold levelName
  split
  · next severity _ => cases severity <;> decide
  · simp only [onOneLine_append]
    exact ⟨⟨by decide, onOneLine_int level⟩, by decide⟩

/-- The text of a value that is no group stands on one line if and only if its bare texts do. -/
theorem onOneLine_pretty_iff {d : Datum} (hgroup : ∀ inner, d ≠ .group inner)
    (hreport : ∀ inner, d ≠ .report inner) :
    OnOneLine d.pretty.2 ↔ ∀ text ∈ d.bareTexts, OnOneLine text := by
  cases d with
  | text s => simpa [Datum.pretty, Datum.bareTexts] using onOneLine_prettyText s
  | integer n => simpa [Datum.pretty, Datum.bareTexts] using onOneLine_int n
  | unsigned n => simpa [Datum.pretty, Datum.bareTexts] using onOneLine_repr n
  | number x =>
    have hwords := onOneLine_write (l := general) (by decide) (by decide) (by decide) (by decide) x
    simpa [Datum.pretty, Datum.bareTexts] using hwords
  | bool b => cases b <;> decide
  | duration n => simpa [Datum.pretty, Datum.bareTexts] using onOneLine_durationText n
  | instant t => simpa [Datum.pretty, Datum.bareTexts] using onOneLine_secondsLayout t
  | severity level => simpa [Datum.pretty, Datum.bareTexts] using onOneLine_levelLabel level
  | failure message => simp [Datum.pretty, Datum.bareTexts]
  | value v => simp [Datum.pretty, Datum.bareTexts]
  | group inner => exact absurd rfl (hgroup inner)
  | report inner => exact absurd rfl (hreport inner)

/-! ### The pieces of an attribute -/

namespace Pretty

variable {time : TimeStyle} {path out : String} {ps : List String}

/-- Pieces with spaces between them take one line when each of them does. -/
theorem onOneLine_behind : OnOneLine (behind ps) ↔ ∀ p ∈ ps, OnOneLine p := by
  induction ps with
  | nil => simp [behind]
  | cons p ps ih =>
    have hspace : OnOneLine " " := by decide
    simp [behind, ih, hspace]

/-- So do pieces behind what is written already, if that does. -/
theorem onOneLine_attach : OnOneLine (attach out ps) ↔ OnOneLine out ∧ ∀ p ∈ ps, OnOneLine p := by
  induction ps generalizing out with
  | nil => simp [attach]
  | cons p ps ih =>
    have hspace : OnOneLine (if out = "" then "" else " ") := by split <;> decide
    have hstep : attach out (p :: ps)
        = attach (out ++ (if out = "" then "" else " ") ++ p) ps := rfl
    simp [hstep, ih, hspace, and_assoc]

/-- A piece below a path and a key that take one line does so when its value does. -/
theorem onOneLine_piece {key : String} {d : Datum} (hpath : OnOneLine path)
    (hkey : OnOneLine key) : OnOneLine (piece path (key, d)) ↔ OnOneLine d.pretty.2 := by
  have hcode : ∀ c : Color, OnOneLine c.code := by
    intro c
    cases c <;> decide
  have hreset : OnOneLine colorReset := by decide
  have hequals : OnOneLine "=" := by decide
  simp [piece, Color.paint, hcode, hreset, hequals, hpath, hkey]

/-- What stands for an attribute is the attribute itself, or a text under its key in place of a
value without bare texts. Nothing stands only for such a value. -/
theorem replace_cases (time : TimeStyle) (f : Field) :
    replace time f = some f ∨
      f.2.bareTexts = [] ∧ (replace time f = none ∨ ∃ s, replace time f = some (f.1, .text s)) := by
  unfold replace
  split
  · split
    · exact .inr ⟨rfl, .inl rfl⟩
    · exact .inr ⟨rfl, .inr ⟨_, rfl⟩⟩
  · exact .inr ⟨rfl, .inr ⟨_, rfl⟩⟩
  · exact .inl rfl

/-- What says nothing is the null value, and would be written as that. -/
theorem bareTexts_of_isVoid {f : Field} (hvoid : isVoid f) : f.2.bareTexts = ["<nil>"] := by
  unfold isVoid at hvoid
  split at hvoid
  · rfl
  · cases hvoid

/-- What is shown of an attribute that is no group stands on one line if and only if its bare texts
do. -/
theorem onOneLine_shown {f : Field} (hgroup : ∀ inner, f.2 ≠ .group inner)
    (hreport : ∀ inner, f.2 ≠ .report inner) (hpath : OnOneLine path) (hkey : OnOneLine f.1) :
    (∀ p ∈ ((shown? time path f).map (piece path)).toList, OnOneLine p)
      ↔ ∀ text ∈ f.2.bareTexts, OnOneLine text := by
  have hself : (∀ p ∈ (((some f).filter fun f => !isVoid f).map (piece path)).toList, OnOneLine p)
      ↔ ∀ text ∈ f.2.bareTexts, OnOneLine text := by
    by_cases hvoid : isVoid f
    · -- Nothing is shown of it, and the text that it would have stands on one line.
      have hnil : OnOneLine "<nil>" := by decide
      simp [Option.filter, hvoid, bareTexts_of_isVoid hvoid, hnil]
    · rw [← onOneLine_pretty_iff hgroup hreport]
      simpa [Option.filter, hvoid] using onOneLine_piece hpath hkey
  unfold shown?
  split
  · -- What is replaced has no bare texts, and what takes its place is quoted where it must be.
    rcases replace_cases time f with h | ⟨hbare, h | ⟨s, h⟩⟩
    · rw [h]
      exact hself
    · simp [h, hbare, Option.filter]
    · have hpiece : OnOneLine (piece path (f.1, .text s)) :=
        (onOneLine_piece hpath hkey).mpr (onOneLine_prettyText s)
      simp [h, hbare, Option.filter, isVoid, hpiece]
  · exact hself

/-- The path of a group takes one line when the path above and the name do. -/
theorem onOneLine_inside {name : String} (hpath : OnOneLine path) (hname : OnOneLine name) :
    OnOneLine (inside path name) := by
  have hdot : OnOneLine "." := by decide
  unfold inside
  split
  · exact hpath
  · simp [hpath, hname, hdot]

mutual

/-- An attribute stands on one line if and only if its bare texts do. -/
theorem onOneLine_pieces {path name : String} (d : Datum) (hpath : OnOneLine path)
    (hname : OnOneLine name) (hkeys : ∀ key ∈ d.keys, OnOneLine key) :
    (∀ p ∈ pieces time path name d, OnOneLine p) ↔ ∀ text ∈ d.bareTexts, OnOneLine text := by
  cases d with
  | group inner =>
    rw [pieces, Datum.bareTexts]
    exact onOneLine_allPieces inner (onOneLine_inside hpath hname) hkeys
  | report inner =>
    rw [pieces, Datum.bareTexts]
    exact onOneLine_allPieces inner (onOneLine_inside hpath hname) hkeys
  | _ =>
    rw [pieces]
    · exact onOneLine_shown (by simp) (by simp) hpath hname
    all_goals simp

/-- Attributes stand on one line if and only if their bare texts do. -/
theorem onOneLine_allPieces {path : String} (fs : List (String × Datum)) (hpath : OnOneLine path)
    (hkeys : ∀ key ∈ keysOf fs, OnOneLine key) :
    (∀ p ∈ allPieces time path fs, OnOneLine p) ↔ ∀ text ∈ bareTextsOf fs, OnOneLine text := by
  match fs with
  | [] => simp [allPieces, bareTextsOf]
  | (name, d) :: rest =>
    rw [keysOf, List.forall_mem_cons, List.forall_mem_append] at hkeys
    obtain ⟨hname, hinner, hrest⟩ := hkeys
    rw [allPieces, bareTextsOf, List.forall_mem_append, List.forall_mem_append,
      onOneLine_pieces d hpath hname hinner, onOneLine_allPieces rest hpath hrest]

end

end Pretty

/-! ### Lines -/

/-- A text with one line feed, at its end. -/
def IsLine (s : String) : Prop := ∃ front, s = front ++ "\n" ∧ OnOneLine front

/-- A text with a line feed behind it is a line when the text takes one line. -/
theorem isLine_append {s : String} : IsLine (s ++ "\n") ↔ OnOneLine s := by
  constructor
  · rintro ⟨front, heq, hfront⟩
    rw [← String.toList_inj, String.toList_append, String.toList_append] at heq
    rwa [OnOneLine, List.append_cancel_right heq]
  · intro hs
    exact ⟨s, rfl, hs⟩

namespace PrettyHandler

open Pretty

/-- A handler as a logger comes by it, with the groups and the attributes that it was given. -/
inductive Made : PrettyHandler → List String → List Field → Prop where
  | new (time : TimeStyle) : Made (.new time) [] []
  | withGroup {h : PrettyHandler} {groups : List String} {own : List Field}
      (hh : Made h groups own) (name : String) : Made (h.withGroup name) (groups ++ [name]) own
  | withFields {h : PrettyHandler} {groups : List String} {own : List Field}
      (hh : Made h groups own) (more : List Field) : Made (h.withFields more) groups (own ++ more)

variable {h : PrettyHandler} {groups : List String} {own : List Field}

/-- What a handler holds stands on one line if and only if the bare texts of its attributes do. -/
theorem Made.onOneLine (hh : h.Made groups own) (hgroups : ∀ name ∈ groups, OnOneLine name)
    (hkeys : ∀ key ∈ keysOf own, OnOneLine key) :
    OnOneLine h.path ∧ (OnOneLine h.written ↔ ∀ text ∈ bareTextsOf own, OnOneLine text) := by
  induction hh with
  | new time => simp [PrettyHandler.new, bareTextsOf]
  | withGroup hh name ih =>
    rw [List.forall_mem_append, List.forall_mem_singleton] at hgroups
    obtain ⟨hpath, hwritten⟩ := ih hgroups.1 hkeys
    exact ⟨onOneLine_inside hpath hgroups.2, hwritten⟩
  | withFields hh more ih =>
    rw [keysOf_append, List.forall_mem_append] at hkeys
    obtain ⟨hpath, hwritten⟩ := ih hgroups hkeys.1
    refine ⟨hpath, ?_⟩
    rw [written_withFields, onOneLine_attach, hwritten, onOneLine_allPieces more hpath hkeys.2,
      bareTextsOf_append, List.forall_mem_append]

/-- What a line begins with takes one line, whatever the message of the record. -/
theorem onOneLine_opening (h : PrettyHandler) (now level : Int) (message : String) :
    OnOneLine (h.opening now level message) := by
  have hkeys : ∀ key ∈ keysOf (builtIns now level message), OnOneLine key := by
    have hnames : ∀ key ∈ ["time", "level", "msg"], OnOneLine key := by decide
    exact hnames
  refine onOneLine_attach.mpr ⟨onOneLine_empty, ?_⟩
  exact (onOneLine_allPieces _ onOneLine_empty hkeys).mpr
    (by simp [builtIns, bareTextsOf, Datum.bareTexts])

/-- **One line.** The line of a record ends with a line feed. With no line feed in a key or in the
name of a group, it has no other one if and only if none is in the text of an error or of a runtime
value among the attributes of the handler and of the record. -/
theorem line_isLine_iff {r : Record} (hh : h.Made groups own)
    (hgroups : ∀ name ∈ groups, OnOneLine name)
    (hkeys : ∀ key ∈ keysOf (own ++ r.fields), OnOneLine key) (now : Int) :
    (h.line now r).toList.getLast? = some '\n' ∧
    (IsLine (h.line now r) ↔ ∀ text ∈ bareTextsOf (own ++ r.fields), OnOneLine text) := by
  obtain ⟨level, message, fs⟩ := r
  rw [keysOf_append, List.forall_mem_append] at hkeys
  obtain ⟨hpath, hwritten⟩ := hh.onOneLine hgroups hkeys.1
  have hfront : OnOneLine (h.opening now level message ++ h.written ++
        behind (allPieces h.time h.path fs))
      ↔ ∀ text ∈ bareTextsOf (own ++ fs), OnOneLine text := by
    rw [onOneLine_append, onOneLine_append, onOneLine_behind, hwritten,
      onOneLine_allPieces fs hpath hkeys.2, bareTextsOf_append, List.forall_mem_append,
      and_iff_right (onOneLine_opening h now level message)]
  rw [line_eq, isLine_append]
  exact ⟨by simp, hfront⟩

/-- A text with a line feed is quoted, and the error of a group stands on one line. -/
theorem line_isLine_iff_quoted :
    let h := ((PrettyHandler.new (.layout secondsLayout)).withGroup "request").withFields
      [("path", .text "a\nb")]
    let r : Record := ⟨0, "one\ntwo", [("cause", .report [("text", .failure "no such file")])]⟩
    h.Made ["request"] [("path", .text "a\nb")] ∧
    (∀ name ∈ ["request"], OnOneLine name) ∧
    (∀ key ∈ keysOf ([("path", .text "a\nb")] ++ r.fields), OnOneLine key) ∧
    (h.line 0 r).toList.getLast? = some '\n' ∧
    (IsLine (h.line 0 r)
      ↔ ∀ text ∈ bareTextsOf ([("path", .text "a\nb")] ++ r.fields), OnOneLine text) := by
  intro h r
  have hh : h.Made ["request"] [("path", .text "a\nb")] :=
    .withFields (.withGroup (.new (.layout secondsLayout)) "request") [("path", .text "a\nb")]
  have hgroups : ∀ name ∈ ["request"], OnOneLine name := by decide
  have hkeys : ∀ key ∈ keysOf ([("path", .text "a\nb")] ++ r.fields), OnOneLine key := by
    decide
  exact ⟨hh, hgroups, hkeys, line_isLine_iff hh hgroups hkeys 0⟩

/-- The values of a comment are written as they are: a text with a line feed takes two lines. -/
theorem comment_breaks_line :
    let r := Record.at .info "comment" [("values", .value (.array 0 [.text "a\nb"]))]
    (PrettyHandler.new .none).line 0 r
      = Color.gray.paint "level" ++ "=" ++ Color.green.paint "INFO" ++ " " ++
          Color.gray.paint "msg" ++ "=" ++ Color.cyan.paint "comment" ++ " " ++
          Color.gray.paint "values" ++ "=" ++ Color.cyan.paint "[a\nb]" ++ "\n" ∧
    ¬IsLine ((PrettyHandler.new .none).line 0 r) := by
  intro r
  have hline : (PrettyHandler.new .none).line 0 r
      = Color.gray.paint "level" ++ "=" ++ Color.green.paint "INFO" ++ " " ++
          Color.gray.paint "msg" ++ "=" ++ Color.cyan.paint "comment" ++ " " ++
          Color.gray.paint "values" ++ "=" ++ Color.cyan.paint "[a\nb]" ++ "\n" := by
    decide +kernel
  refine ⟨hline, ?_⟩
  rw [hline, isLine_append]
  decide +kernel

end PrettyHandler

end TagScript.Log
