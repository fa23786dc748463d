import TagScript.Log.Pretty

/-!
# `TagScript.Proofs.Log.Pieces`: a coloured line as a list of pieces

A coloured line is made attribute by attribute, each behind what is written already. What is written
for an attribute depends only on the attribute and on the groups around it: it is a list of pieces
(`Pretty.pieces`), one for each attribute of a group and none for one that says nothing. They are
put behind each other with spaces between them (`attach`), so that all that is known about a line is
known from its pieces (`fields_eq`, `line_eq`).
-/

set_option autoImplicit false

namespace TagScript.Log

open Text

namespace Pretty

variable {time : TimeStyle} {path out p : String} {ps qs : List String}

/-! ### Pieces behind each other -/

/-- Pieces behind what is written already, each with a space in front of it unless it is the first
of the line. -/
def attach (out : String) (ps : List String) : String :=
  ps.foldl (fun out p => out ++ (if out = "" then "" else " ") ++ p) out

/-- Pieces with a space in front of each. -/
def behind : List String → String
  | [] => ""
  | p :: ps => " " ++ p ++ behind ps

/-- Pieces may be attached in one step or in two. -/
theorem attach_append (out : String) (ps qs : List String) :
    attach out (ps ++ qs) = attach (attach out ps) qs :=
  List.foldl_append

/-- Pieces behind others have spaces in front of them like those. -/
theorem behind_append (ps qs : List String) : behind (ps ++ qs) = behind ps ++ behind qs := by
  induction ps with
  | nil => simp [behind]
  | cons p ps ih =>
    simp only [List.cons_append, behind, ih, String.append_assoc]

/-- Behind something, every piece has a space in front of it. -/
theorem attach_of_ne (hout : out ≠ "") : attach out ps = out ++ behind ps := by
  induction ps generalizing out with
  | nil => simp [attach, behind]
  | cons p ps ih =>
    have hne : out ++ " " ++ p ≠ "" := by simp [hout]
    have hstep : attach out (p :: ps) = attach (out ++ " " ++ p) ps := by
      simp [attach, hout]
    rw [hstep, ih hne]
    simp only [behind, String.append_assoc]

/-- The first piece of a line has no space in front of it. -/
theorem attach_empty_cons (hp : p ≠ "") : attach "" (p :: ps) = p ++ behind ps := by
  have hstep : attach "" (p :: ps) = attach p ps := by simp [attach]
  rw [hstep, attach_of_ne hp]

/-- Something is written when one of the pieces is not empty. -/
theorem attach_ne (hps : ∃ p ∈ ps, p ≠ "") : attach out ps ≠ "" := by
  obtain ⟨p, hmem, hp⟩ := hps
  induction ps generalizing out with
  | nil => cases hmem
  | cons q ps ih =>
    by_cases hq : out ++ (if out = "" then "" else " ") ++ q = ""
    · have hne : p ≠ q := by
        rintro rfl
        exact hp (String.append_eq_empty_iff.mp hq).2
      exact ih (List.mem_of_ne_of_mem hne hmem)
    · have hstep : attach out (q :: ps)
          = attach (out ++ (if out = "" then "" else " ") ++ q) ps := rfl
      rw [hstep, attach_of_ne hq]
      simp [hq]

/-- Something stands behind what is written already, unless there are no pieces. -/
theorem attach_eq_self_iff (out : String) (hps : ∀ p ∈ ps, p ≠ "") :
    attach out ps = out ↔ ps = [] := by
  cases ps with
  | nil => exact iff_of_true rfl rfl
  | cons p ps =>
    refine iff_of_false (fun heq => ?_) (List.cons_ne_nil p ps)
    have hp : 0 < p.length := Nat.pos_of_ne_zero (by simp [hps p List.mem_cons_self])
    have hne : out ++ (if out = "" then "" else " ") ++ p ≠ "" := by
      simp [hps p List.mem_cons_self]
    -- A piece makes what is written longer.
    have hlength := congrArg String.length heq
    rw [show attach out (p :: ps) = attach (out ++ (if out = "" then "" else " ") ++ p) ps from rfl,
      attach_of_ne hne, String.length_append, String.length_append, String.length_append] at hlength
    omega

/-! ### The pieces of an attribute -/

/-- An attribute as it is shown. -/
def piece (path : String) (f : Field) : String :=
  Color.gray.paint (path ++ f.1) ++ "=" ++ f.2.pretty.1.paint f.2.pretty.2

/-- What is shown of an attribute that is no group: outside groups what replaces it, except for a
level, and nothing if that says nothing. -/
def shown? (time : TimeStyle) (path : String) (f : Field) : Option Field :=
  (if path = "" ∧ f.1 ≠ "level" then replace time f else some f).filter fun f => !isVoid f

mutual

/-- The pieces of an attribute; those of a group's attributes one after another. -/
def pieces (time : TimeStyle) (path name : String) : Datum → List String
  | .group inner => allPieces time (inside path name) inner
  | .report inner => allPieces time (inside path name) inner
  | d => ((shown? time path (name, d)).map (piece path)).toList

/-- The pieces of attributes in order. -/
def allPieces (time : TimeStyle) (path : String) : List (String × Datum) → List String
  | [] => []
  | (name, d) :: rest => pieces time path name d ++ allPieces time path rest

end

/-- A piece is not empty. -/
theorem piece_ne (path : String) (f : Field) : piece path f ≠ "" := by
  simp [piece, Color.paint, Color.code]

/-- An attribute that is no group is written as its piece, if it has one. -/
theorem single_eq (time : TimeStyle) (out path : String) (f : Field) :
    single time out path f = attach out ((shown? time path f).map (piece path)).toList := by
  unfold single shown?
  cases hshown : if path = "" ∧ f.1 ≠ "level" then replace time f else some f with
  | none => rfl
  | some g =>
    by_cases hvoid : isVoid g
    · simp [Option.filter, hvoid, attach]
    · simp [Option.filter, hvoid, attach, piece, String.append_assoc]

mutual

/-- An attribute is written as its pieces. -/
theorem field_eq (time : TimeStyle) (path name : String) (d : Datum) (out : String) :
    field time path name d out = attach out (pieces time path name d) := by
  cases d with
  | group inner => rw [field, pieces, fields_eq]
  | report inner => rw [field, pieces, fields_eq]
  | _ =>
    rw [field, pieces, single_eq]
    all_goals simp

/-- Attributes are written as their pieces. -/
theorem fields_eq (time : TimeStyle) (path : String) (fs : List (String × Datum)) (out : String) :
    fields time path fs out = attach out (allPieces time path fs) := by
  match fs with
  | [] => rfl
  | (name, d) :: rest => rw [fields, allPieces, attach_append, field_eq, fields_eq]

end

mutual

/-- None of the pieces of an attribute is empty. -/
theorem ne_of_mem_pieces {path name : String} (d : Datum) :
    ∀ p ∈ pieces time path name d, p ≠ "" := by
  intro p hp
  cases d with
  | group inner => exact ne_of_mem_allPieces inner p (by rwa [pieces] at hp)
  | report inner => exact ne_of_mem_allPieces inner p (by rwa [pieces] at hp)
  | _ =>
    rw [pieces, Option.mem_toList, Option.map_eq_some_iff] at hp
    · obtain ⟨f, -, rfl⟩ := hp
      exact piece_ne _ _
    all_goals simp

/-- None of the pieces of attributes is empty. -/
theorem ne_of_mem_allPieces {path : String} (fs : List (String × Datum)) :
    ∀ p ∈ allPieces time path fs, p ≠ "" := by
  intro p hp
  match fs with
  | [] => cases hp
  | (name, d) :: rest =>
    rw [allPieces, List.mem_append] at hp
    exact hp.elim (ne_of_mem_pieces d p) (ne_of_mem_allPieces rest p)

end

/-- A group without attributes has no pieces. -/
theorem pieces_of_isEmptyGroup {name : String} {d : Datum} (hd : d.isEmptyGroup) :
    pieces time path name d = [] := by
  match d with
  | .group [] => rfl

/-- Attributes put together have the pieces of both, one after another. -/
theorem allPieces_append (time : TimeStyle) (path : String) (fs gs : List Field) :
    allPieces time path (fs ++ gs) = allPieces time path fs ++ allPieces time path gs := by
  induction fs with
  | nil => rfl
  | cons f fs ih => rw [List.cons_append, allPieces, allPieces, ih, List.append_assoc]

/-- Groups without attributes may as well be left out. -/
theorem allPieces_filter (time : TimeStyle) (path : String) (fs : List Field) :
    allPieces time path (fs.filter fun f => !f.2.isEmptyGroup) = allPieces time path fs := by
  induction fs with
  | nil => rfl
  | cons f fs ih =>
    by_cases hempty : f.2.isEmptyGroup
    · rw [List.filter_cons_of_neg (by simp [hempty]), allPieces, pieces_of_isEmptyGroup hempty, ih,
        List.nil_append]
    · rw [List.filter_cons_of_pos (by simp [hempty]), allPieces, allPieces, ih]

end Pretty

/-! ### Lines -/

namespace PrettyHandler

open Pretty

/-- The time, the level and the message of a record. -/
def builtIns (now level : Int) (message : String) : List Field :=
  [("time", .instant now), ("level", .severity level), ("msg", .text message)]

/-- What a line begins with. -/
def opening (h : PrettyHandler) (now level : Int) (message : String) : String :=
  attach "" (allPieces h.time "" (builtIns now level message))

/-- A line begins with the level at least. -/
theorem opening_ne (h : PrettyHandler) (now level : Int) (message : String) :
    h.opening now level message ≠ "" := by
  have hlevel : piece "" ("level", .severity level)
      ∈ allPieces h.time "" (builtIns now level message) := by
    simp [builtIns, allPieces, pieces, shown?, Option.filter, isVoid]
  exact attach_ne ⟨_, hlevel, piece_ne _ _⟩

/-- What is written when a handler is given attributes is their pieces. -/
theorem written_withFields (h : PrettyHandler) (fs : List Field) :
    (h.withFields fs).written = attach h.written (allPieces h.time h.path fs) :=
  fields_eq _ _ _ _

/-- The line of a record: what it begins with, the attributes that are written already, directly
behind it, and those of the record. -/
theorem line_eq (h : PrettyHandler) (now level : Int) (message : String) (fs : List Field) :
    h.line now ⟨level, message, fs⟩ = h.opening now level message ++ h.written ++
      behind (allPieces h.time h.path fs) ++ "\n" := by
  -- So the attributes of the record are never the first of the line.
  have hne : h.opening now level message ++ h.written ≠ "" := by
    simp [h.opening_ne now level message]
  rw [line, fields_eq, fields_eq, allPieces_filter, ← attach_of_ne hne]
  rfl

end PrettyHandler

end TagScript.Log
