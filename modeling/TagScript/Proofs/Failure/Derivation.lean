import TagScript.Failure

/-!
# `TagScript.Proofs.Failure.Derivation`: what a derived error is

An error is built in steps. One begins with a known error of one of the two disciplines, and each
step derives a new error from the last: it adds attributes (`Derivation.withFields`), puts a cause
in the place of the old one (`Derivation.wrap`) or takes the cause away (`Derivation.bare`). A
cause is any error that was built in this way, of either discipline, or a plain error that nothing
is derived from. A `Recipe` is the record of all these steps.

Most steps leave no trace. `Recipe.chain` says what is left of an error and the causes behind it:
of each, the known error that it began with, or the text of a plain one. `Recipe.given` are the
attributes of all steps. The two disciplines test in different ways what an error is, by origin
and by message; an error that is built has both of them from where it began, and keeps them in
every step (`Derivation.failure_stands`). So an error is the known errors of its chain and no
others, it reads as the chain does, and it has the attributes that it was given
(`Recipe.failure_identity`).
-/

set_option autoImplicit false

namespace TagScript

open Log

/-! ### How errors are built -/

/-- The discipline of the errors that are derived from a known error, if there are any. -/
def Sentinel.discipline? : Sentinel → Option Discipline
  | .stackUnderflow | .maxDepthExceeded | .unknownNode | .malformedTag | .parse
  | .invalidGlobal | .rangeLimit => some .template
  | .openSource | .writeOutput | .writeConfig | .fileExists | .noTerminal => some .command
  | .outOfBounds | .editDeclined | .canceled => none

namespace Failure

mutual

/-- The steps by which an error is derived from a known one. The serial number of a step is that
of the new error. -/
inductive Derivation where
  | known (s : Sentinel) (hs : s.discipline?.isSome)
  | withFields (d : Derivation) (serial : Nat) (more : List Field)
  | wrap (d : Derivation) (serial : Nat) (cause : Recipe)
  | bare (d : Derivation) (serial : Nat)

/-- How an error is built. -/
inductive Recipe where
  | plain (serial : Nat) (text : String)
  | derived (d : Derivation)

end

mutual

/-- The error that steps lead to. -/
def Derivation.failure : Derivation → Failure
  | .known s _ => Failure.known s
  | .withFields d serial more => d.failure.withFields (.made serial) more
  | .wrap d serial cause => d.failure.wrap (.made serial) (some cause.failure)
  | .bare d serial => d.failure.wrap (.made serial) none

/-- The error that is built. -/
def Recipe.failure : Recipe → Failure
  | .plain serial text => .plain (.made serial) text
  | .derived d => d.failure

end

/-! ### What is left of the steps -/

/-- One error of a chain, its causes and attributes aside. -/
inductive Link where
  /-- An error that was derived from a known one. -/
  | known (s : Sentinel)
  | plain (text : String)
deriving Repr, DecidableEq

/-- The message of a link. -/
def Link.message : Link → String
  | .known s => s.message
  | .plain text => text

/-- The known error that the steps began with. -/
def Derivation.root : Derivation → Sentinel
  | .known s _ => s
  | .withFields d _ _ => d.root
  | .wrap d _ _ => d.root
  | .bare d _ => d.root

mutual

/-- The causes behind a derived error, one behind the other. -/
def Derivation.causes : Derivation → List Link
  | .known _ _ => []
  | .withFields d _ _ => d.causes
  | .wrap _ _ cause => cause.chain
  | .bare _ _ => []

/-- An error and the causes behind it. -/
def Recipe.chain : Recipe → List Link
  | .plain _ text => [.plain text]
  | .derived d => .known d.root :: d.causes

end

/-- The attributes of all steps, in order. -/
def Derivation.given : Derivation → List Field
  | .known _ _ => []
  | .withFields d _ more => d.given ++ more
  | .wrap d _ _ => d.given
  | .bare d _ => d.given

/-- The attributes that an error was given. -/
def Recipe.given : Recipe → List Field
  | .plain _ _ => []
  | .derived d => d.given

/-- The error that is the cause after the last step. -/
def Derivation.cause? : Derivation → Option Failure
  | .known _ _ => none
  | .withFields d _ _ => d.cause?
  | .wrap _ _ cause => some cause.failure
  | .bare _ _ => none

/-! ### Every step keeps where an error began -/

/-- An error that was derived from a known one, or is that known error. -/
def Stands (s : Sentinel) (cause : Option Failure) (fields : List Field) (e : Failure) : Prop :=
  ∃ k self, s.discipline? = some k ∧ (self = .known s ∨ ∃ serial, self = .made serial) ∧
    e = .derived k self (.known s) s.message cause fields

/-- A known error of a discipline is an error of this discipline, and its own origin. -/
theorem known_of_discipline {s : Sentinel} {k : Discipline} (h : s.discipline? = some k) :
    known s = .derived k (.known s) (.known s) s.message none [] := by
  cases s <;> cases h <;> rfl

/-- Nothing is derived from the other known errors. -/
theorem known_of_plain {s : Sentinel} (h : s.discipline? = none) :
    known s = .plain (.known s) s.message := by
  cases s <;> first | rfl | cases h

/-- A derived error has its origin and its message from where it began. -/
theorem Derivation.failure_stands : (d : Derivation) →
    Stands d.root d.cause? d.given d.failure
  | .known s hs => by
      obtain ⟨k, hk⟩ := Option.isSome_iff_exists.mp hs
      exact ⟨k, .known s, hk, .inl rfl, known_of_discipline hk⟩
  | .withFields d serial more => by
      obtain ⟨k, self, hk, -, heq⟩ := d.failure_stands
      exact ⟨k, .made serial, hk, .inr ⟨serial, rfl⟩, by rw [failure, heq]; rfl⟩
  | .wrap d serial cause => by
      obtain ⟨k, self, hk, -, heq⟩ := d.failure_stands
      exact ⟨k, .made serial, hk, .inr ⟨serial, rfl⟩, by rw [failure, heq]; rfl⟩
  | .bare d serial => by
      obtain ⟨k, self, hk, -, heq⟩ := d.failure_stands
      exact ⟨k, .made serial, hk, .inr ⟨serial, rfl⟩, by rw [failure, heq]; rfl⟩

/-! ### What an error is -/

/-- A known error is the first one with its message. -/
theorem find?_message (s : Sentinel) :
    Sentinel.all.find? (fun t => t.message = s.message) = some s := by
  cases s <;> decide +kernel

/-- Known errors differ in their messages. -/
theorem message_injective {s t : Sentinel} (h : s.message = t.message) : s = t := by
  have hs := find?_message s
  rw [h, find?_message t] at hs
  exact (Option.some.inj hs).symm

/-- Every known error has a message. -/
theorem message_ne_empty (s : Sentinel) : s.message ≠ "" := by
  cases s <;> decide

variable {s : Sentinel} {cause : Option Failure} {fields : List Field} {e : Failure}

/-- Its cause aside, a derived error is the known error that it began with. -/
theorem Stands.matchesTarget_iff (h : Stands s cause fields e) (t : Sentinel) :
    e.matchesTarget (known t) = true ↔ t = s := by
  obtain ⟨k, self, hs, hself, rfl⟩ := h
  cases ht : t.discipline? with
  | none =>
    have hne : t ≠ s := by
      rintro rfl
      cases hs.symm.trans ht
    simp [known_of_plain ht, matchesTarget, hne]
  | some k' =>
    rw [known_of_discipline ht]
    have hkind : t = s → k' = k := by
      rintro rfl
      exact Option.some.inj (ht.symm.trans hs)
    have hmessage : t.message = s.message ↔ t = s := ⟨message_injective, congrArg _⟩
    -- Errors of the two disciplines never are one another.
    cases k <;> cases k'
    case template.template => simpa [matchesTarget] using eq_comm
    case template.command => simp [matchesTarget, mt hkind nofun]
    case command.template => simp [matchesTarget, mt hkind nofun]
    case command.command =>
      rcases hself with rfl | ⟨serial, rfl⟩
      · have hself : s = t → t = s := Eq.symm
        simpa [matchesTarget, message_ne_empty, hmessage] using hself
      · simp [matchesTarget, message_ne_empty, hmessage]

/-- A derived error is the known error that it began with, and whatever its cause is. -/
theorem Stands.isA_iff (h : Stands s cause fields e) (t : Sentinel) :
    e.isA (known t) = true ↔ t = s ∨ ∃ c, cause = some c ∧ c.isA (known t) = true := by
  rw [← h.matchesTarget_iff t]
  obtain ⟨k, self, hs, hself, rfl⟩ := h
  cases cause <;> simp [isA]

/-- It reads as the message of this known error, with that of the cause behind it. -/
theorem Stands.message_eq (h : Stands s cause fields e) :
    e.message = ": ".intercalate (s.message :: (cause.map message).toList) := by
  obtain ⟨k, self, hs, hself, rfl⟩ := h
  cases cause with
  | none => simp [message]
  | some c => simp [message, message_ne_empty]

mutual

/-- What is behind a derived error is its causes. -/
theorem Derivation.cause_isA_iff (t : Sentinel) : (d : Derivation) →
    ((∃ c, d.cause? = some c ∧ c.isA (known t) = true) ↔ .known t ∈ d.causes)
  | .known _ _ => by simp [Derivation.cause?, Derivation.causes]
  | .withFields d _ _ => d.cause_isA_iff t
  | .wrap _ _ cause => by
      simp [Derivation.cause?, Derivation.causes, cause.isA_iff t]
  | .bare _ _ => by simp [Derivation.cause?, Derivation.causes]

/-- An error is the known errors of its chain, and no others. -/
theorem Recipe.isA_iff (t : Sentinel) : (r : Recipe) →
    (r.failure.isA (known t) = true ↔ .known t ∈ r.chain)
  | .plain serial text => by
      have hidentity : (known t).identity = .known t := by cases t <;> rfl
      simp [Recipe.failure, Recipe.chain, isA, matchesTarget, hidentity]
  | .derived d => by
      rw [Recipe.failure, d.failure_stands.isA_iff t, d.cause_isA_iff t, Recipe.chain,
        List.mem_cons, Link.known.injEq]

end

/-- There is at least the error itself in its chain. -/
theorem Recipe.chain_ne_nil (r : Recipe) : r.chain ≠ [] := by
  cases r <;> simp [chain]

mutual

/-- Behind a message, the message of the cause is those of the links behind the first. -/
theorem Derivation.message_cause? : (d : Derivation) → (m : String) →
    ": ".intercalate (m :: (d.cause?.map message).toList)
      = ": ".intercalate (m :: d.causes.map Link.message)
  | .known _ _, _ => rfl
  | .withFields d _ _, m => d.message_cause? m
  | .wrap _ _ cause, m => by
      have hne : cause.chain.map Link.message ≠ [] := mt List.map_eq_nil_iff.mp cause.chain_ne_nil
      simp only [Derivation.cause?, Derivation.causes, Option.map_some, Option.toList_some,
        String.intercalate_cons_of_ne_nil hne, cause.message_eq, String.intercalate_cons_cons,
        String.intercalate_singleton]
  | .bare _ _, _ => rfl

/-- An error reads as the messages of its chain. -/
theorem Recipe.message_eq : (r : Recipe) →
    r.failure.message = ": ".intercalate (r.chain.map Link.message)
  | .plain _ _ => by simp [Recipe.failure, Recipe.chain, Failure.message, Link.message]
  | .derived d => by
      rw [Recipe.failure, d.failure_stands.message_eq, d.message_cause?]
      rfl

end

/-- An error has the attributes that it was given. -/
theorem Recipe.fields_eq (r : Recipe) : r.failure.fields = r.given := by
  cases r with
  | plain => rfl
  | derived d =>
    obtain ⟨k, self, -, -, heq⟩ := d.failure_stands
    rw [failure, heq]
    rfl

/-- **An error is what it was derived from.** An error that is built from known and plain errors by
adding attributes and exchanging causes, in any order and any number of steps, is the known errors
that it and the causes behind it were derived from, and no other. Its text is the messages of this
chain with colons between them. Its own attributes are those of all its steps, in their order. -/
theorem Recipe.failure_identity (r : Recipe) :
    (∀ s, r.failure.isA (Failure.known s) = true ↔ .known s ∈ r.chain) ∧
      r.failure.message = ": ".intercalate (r.chain.map Link.message) ∧
      r.failure.fields = r.given :=
  ⟨fun s => r.isA_iff s, r.message_eq, r.fields_eq⟩

/-- A cause that was exchanged is forgotten; attributes that came before and after stay. -/
example :
    let parse : Derivation := .withFields (.known .parse rfl) 1 [("line", .integer 1)]
    let opened : Derivation := .withFields (.known .openSource rfl) 2 [("file", .text "a")]
    let wrapped : Derivation := .wrap (.wrap opened 3 (.plain 4 "lost")) 5 (.derived parse)
    let r : Recipe := .derived (.withFields wrapped 6 [("try", .integer 2)])
    r.chain = [.known .openSource, .known .parse] ∧
      r.given = [("file", .text "a"), ("try", .integer 2)] :=
  ⟨rfl, rfl⟩

end Failure

end TagScript
