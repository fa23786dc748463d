import TagScript.Log.Logger
import TagScript.Proofs.Log.Pieces

/-!
# `TagScript.Proofs.Log.Attributes`: a logger's attributes and a record's

A logger with attributes should write what it writes without them when each record has them in front
of its own. For the coloured form both are made of the same pieces, and what a logger is given in
two steps it may as well be given in one (`withFields_append`). But the pieces that are written when
a logger is made have spaces between them only, and a line puts them directly behind the message. So
the space in front of the first of them is missing, unless the logger had attributes before
(`emit_withFields_iff`).
-/

set_option autoImplicit false

namespace TagScript.Log

open Pretty

namespace PrettyHandler

variable {h : PrettyHandler} {a b : List Field} {now level : Int} {message : String}

/-- Attributes may be given in one step or in two. -/
theorem withFields_append (h : PrettyHandler) (a b : List Field) :
    (h.withFields a).withFields b = h.withFields (a ++ b) := by
  have hwritten : ((h.withFields a).withFields b).written = (h.withFields (a ++ b)).written := by
    rw [written_withFields, written_withFields, written_withFields, allPieces_append, attach_append]
    rfl
  simpa [withFields] using hwritten

/-- A handler stays the same if and only if the attributes say nothing. -/
theorem withFields_eq_self_iff : h.withFields a = h ↔ allPieces h.time h.path a = [] := by
  rw [← attach_eq_self_iff h.written (ne_of_mem_allPieces a), ← written_withFields]
  constructor
  · intro hsame
    rw [hsame]
  · intro hwritten
    obtain ⟨time, path, written⟩ := h
    simpa [withFields] using hwritten

/-- The attributes of a record that come first may as well be the logger's own, if it has others
already or they say nothing. -/
theorem line_withFields (hsame : h.written ≠ "" ∨ h.withFields a = h) :
    (h.withFields a).line now ⟨level, message, b⟩ = h.line now ⟨level, message, a ++ b⟩ := by
  have hwritten : attach h.written (allPieces h.time h.path a)
      = h.written ++ behind (allPieces h.time h.path a) := by
    rcases hsame with hne | hself
    · exact attach_of_ne hne
    · rw [withFields_eq_self_iff.mp hself]
      simp [attach, behind]
  rw [line_eq, line_eq, written_withFields, hwritten, allPieces_append, behind_append]
  simp only [String.append_assoc]
  rfl

/-- The first attributes of a logger lack the space behind the message. -/
theorem line_withFields_of_first (now level : Int) (message : String) (b : List Field)
    (hwritten : h.written = "") (hgained : h.withFields a ≠ h) :
    ∃ front back, h.line now ⟨level, message, []⟩ = front ++ "\n" ∧
      (h.withFields a).line now ⟨level, message, b⟩ = front ++ back ∧
      h.line now ⟨level, message, a ++ b⟩ = front ++ " " ++ back := by
  obtain ⟨p, ps, hpieces⟩ :=
    List.exists_cons_of_ne_nil (mt withFields_eq_self_iff.mpr hgained)
  have hp : p ≠ "" := ne_of_mem_allPieces a p (hpieces ▸ List.mem_cons_self)
  refine ⟨h.opening now level message,
    p ++ behind ps ++ behind (allPieces h.time h.path b) ++ "\n", ?_, ?_, ?_⟩
  · rw [line_eq, hwritten]
    simp [allPieces, behind]
  · rw [line_eq, written_withFields, hwritten, hpieces, attach_empty_cons hp]
    simp only [String.append_assoc]
    rfl
  · rw [line_eq, hwritten, allPieces_append, hpieces, List.cons_append, behind, behind_append]
    simp only [String.append_assoc, String.append_empty]

end PrettyHandler

namespace Logger

/-- The logger writes nothing at a level. -/
def Suppresses (l : Logger) (level : Int) : Prop :=
  l.config.discard ∨ level < l.config.level

variable {l : Logger} {h : PrettyHandler} {now level : Int} {message : String}

/-- At a level that it does not suppress, a logger writes the line of its handler. -/
theorem emit_eq_line (hhandler : l.handler = some (.pretty h)) (hlevel : ¬l.Suppresses level)
    (fs : List Field) : l.emit now ⟨level, message, fs⟩ = h.line now ⟨level, message, fs⟩ := by
  rw [emit, hhandler]
  exact if_neg (by simpa [Suppresses] using hlevel)

/-- At the others it writes nothing. -/
theorem emit_eq_empty (hhandler : l.handler = some (.pretty h)) (hlevel : l.Suppresses level)
    (fs : List Field) : l.emit now ⟨level, message, fs⟩ = "" := by
  rw [emit, hhandler]
  exact if_pos (by simpa [Suppresses] using hlevel)

/-- Attributes of a logger are attributes of its handler. -/
theorem handler_withFields (hhandler : l.handler = some (.pretty h)) (a : List Field) :
    (l.withFields a).handler = some (.pretty (h.withFields a)) := by
  rw [withFields, hhandler]
  rfl

/-- They change a logger when they change its handler. -/
theorem withFields_eq_self_iff (hhandler : l.handler = some (.pretty h)) (a : List Field) :
    l.withFields a = l ↔ h.withFields a = h := by
  obtain ⟨config, handler⟩ := l
  obtain rfl : handler = some (.pretty h) := hhandler
  simp [withFields, Handler.withFields]

/-- **A logger's attributes.** What a logger of the coloured form is given in two steps it may as
well be given in one. A record with attributes `b` is written by the logger with attributes `a` as
one with `a ++ b` is by the logger itself, if and only if nothing is written at its level, or the
logger had attributes before, or `a` says nothing. Otherwise the two differ in the space behind the
message. -/
theorem emit_withFields_iff (hhandler : l.handler = some (.pretty h)) (a b : List Field) :
    (l.withFields a).withFields b = l.withFields (a ++ b) ∧
    ∀ (now level : Int) (message : String),
      ((l.withFields a).emit now ⟨level, message, b⟩ = l.emit now ⟨level, message, a ++ b⟩
        ↔ l.Suppresses level ∨ h.written ≠ "" ∨ l.withFields a = l) ∧
      (¬l.Suppresses level → h.written = "" → l.withFields a ≠ l →
        ∃ front back, l.emit now ⟨level, message, []⟩ = front ++ "\n" ∧
          (l.withFields a).emit now ⟨level, message, b⟩ = front ++ back ∧
          l.emit now ⟨level, message, a ++ b⟩ = front ++ " " ++ back) := by
  have hgiven := handler_withFields hhandler a
  have hself := withFields_eq_self_iff hhandler a
  have hlines : ∀ now level message, ¬l.Suppresses level →
      (l.withFields a).emit now ⟨level, message, b⟩
          = (h.withFields a).line now ⟨level, message, b⟩ ∧
        l.emit now ⟨level, message, a ++ b⟩ = h.line now ⟨level, message, a ++ b⟩ :=
    fun now level message hlevel => ⟨emit_eq_line hgiven hlevel b, emit_eq_line hhandler hlevel _⟩
  refine ⟨?_, fun now level message => ⟨⟨fun hsame => ?_, fun hcases => ?_⟩,
    fun hlevel hwritten hgained => ?_⟩⟩
  · simp only [withFields, hhandler, Option.map_some, Handler.withFields,
      PrettyHandler.withFields_append]
  · refine Classical.byContradiction fun hdiffers => ?_
    obtain ⟨hlevel, hfirst⟩ := not_or.mp hdiffers
    obtain ⟨hwritten, hgained⟩ := not_or.mp hfirst
    -- One of the lines is longer than the other by a space.
    obtain ⟨front, back, -, hshort, hlong⟩ := PrettyHandler.line_withFields_of_first now level
      message b (Classical.not_not.mp hwritten) (mt hself.mpr hgained)
    obtain ⟨hgivenLine, hline⟩ := hlines now level message hlevel
    rw [hgivenLine, hline, hshort, hlong] at hsame
    simpa using congrArg String.length hsame
  · by_cases hlevel : l.Suppresses level
    · exact (emit_eq_empty hgiven hlevel b).trans (emit_eq_empty hhandler hlevel _).symm
    · obtain ⟨hgivenLine, hline⟩ := hlines now level message hlevel
      rw [hgivenLine, hline]
      exact PrettyHandler.line_withFields ((hcases.resolve_left hlevel).imp_right hself.mp)
  · obtain ⟨hgivenLine, hline⟩ := hlines now level message hlevel
    rw [hgivenLine, hline, emit_eq_line hhandler hlevel]
    exact PrettyHandler.line_withFields_of_first now level message b hwritten (mt hself.mpr hgained)

/-- A logger that has an attribute already takes on a group as the records would bring it. -/
theorem emit_withFields_iff_scope :
    let h := (PrettyHandler.new .none).withFields [("scope", .text "root")]
    let l : Logger := ⟨{ Config.default with time := .none }, some (.pretty h)⟩
    let a : List Field := [("at", .group [("line", .integer 3)])]
    let b : List Field := [("name", .text "nope")]
    l.handler = some (.pretty h) ∧
    (l.withFields a).withFields b = l.withFields (a ++ b) ∧
    ∀ (now level : Int) (message : String),
      ((l.withFields a).emit now ⟨level, message, b⟩ = l.emit now ⟨level, message, a ++ b⟩
        ↔ l.Suppresses level ∨ h.written ≠ "" ∨ l.withFields a = l) ∧
      (¬l.Suppresses level → h.written = "" → l.withFields a ≠ l →
        ∃ front back, l.emit now ⟨level, message, []⟩ = front ++ "\n" ∧
          (l.withFields a).emit now ⟨level, message, b⟩ = front ++ back ∧
          l.emit now ⟨level, message, a ++ b⟩ = front ++ " " ++ back) := by
  intro h l a b
  exact ⟨rfl, emit_withFields_iff rfl a b⟩

/-- The first attribute of a logger stands directly behind the message. -/
theorem withFields_lacks_space :
    let l := Logger.ofConfig { Config.default with time := .none }
    let a : List Field := [("scope", .text "root")]
    let message : Record := ⟨4, "m", []⟩
    l.emit 0 message
      = Color.gray.paint "level" ++ "=" ++ Color.yellow.paint "WARN" ++ " " ++
          Color.gray.paint "msg" ++ "=" ++ Color.cyan.paint "m" ++ "\n" ∧
    (l.withFields a).emit 0 message
      = Color.gray.paint "level" ++ "=" ++ Color.yellow.paint "WARN" ++ " " ++
          Color.gray.paint "msg" ++ "=" ++ Color.cyan.paint "m" ++
          Color.gray.paint "scope" ++ "=" ++ Color.cyan.paint "root" ++ "\n" ∧
    l.emit 0 { message with fields := a }
      = Color.gray.paint "level" ++ "=" ++ Color.yellow.paint "WARN" ++ " " ++
          Color.gray.paint "msg" ++ "=" ++ Color.cyan.paint "m" ++ " " ++
          Color.gray.paint "scope" ++ "=" ++ Color.cyan.paint "root" ++ "\n" := by
  decide +kernel

end Logger

end TagScript.Log
