import Mathlib.Data.List.Basic
import TagScript.Command.Run

/-!
# `TagScript.Proofs.Command.Initialize`: who may replace the configuration file

The command `init` writes the values of all flags to the configuration file, and does not replace a
file that exists unless its switch `force` is on. The switch is a flag like the others: it is
written to the file as well, and when the command line does not give it, a later run takes it from
there.

So what one run of `init` may do depends on the runs before it. `Leaves` describes the files that
runs of the program leave, one after another, together with what the command lines of `init` said
about `force`. As long as none of them has turned it on, the file says that it is off, and a run
without the switch fails and leaves the file alone. After the first that has turned it on, the file
says that it is on, and every run replaces it, with the switch or without it
(`Leaves.init_existing`).
-/

set_option autoImplicit false

namespace TagScript.Command

open Config

/-! ### Switches on the command line -/

section

variable {name : String}

/-- What is given for a name is a truth value. -/
def Given.Switches (g : Given) (name : String) : Prop :=
  ∀ v, g.values.find? name = some v → ∃ b, v = .bool b

/-- A switch that is given again holds what it was given last. -/
theorem FlagValue.add_bool (old : FlagValue) (b : Bool) : old.add (.bool b) = .bool b := by
  cases old <;> rfl

/-- Giving flags keeps a switch a switch, if the flag of this name is given as one. -/
theorem Given.Switches.give {g : Given} (h : g.Switches name) (flag : Flag) (negated : Bool)
    {value : FlagValue} (hvalue : flag.name = name → ∃ b, value = .bool b) :
    (g.give flag negated value).Switches name := by
  intro v hv
  unfold Given.give at hv
  dsimp only at hv
  rw [Table.find?_insert] at hv
  split at hv
  · next hname =>
      obtain ⟨b, rfl⟩ := hvalue hname
      cases hv
      split
      · exact ⟨_, FlagValue.add_bool _ _⟩
      · exact ⟨_, rfl⟩
  · exact h v hv

/-- All flags of a name are switches. -/
def OnlySwitches (name : String) : Prop :=
  ∀ p : Place, ∀ flag ∈ p.flags, flag.name = name → flag.kind.isSwitch

/-- The flag `--force` is a switch wherever there is one of this name. -/
theorem onlySwitches_force : OnlySwitches "force" := by
  intro p
  cases p <;> decide

namespace Arguments

variable {places : Places} {flags : List Flag} {flag : Flag} {rest rest' : List Argument}
  {g g' : Given} {p : Place}

/-- The value of a switch is a truth value. -/
theorem valueOf_switch {attached : Option String} {v : FlagValue} (hflag : flag.kind.isSwitch)
    (h : valueOf places flag attached rest = .ok (v, rest')) : ∃ b, v = .bool b := by
  obtain ⟨negatable, hkind⟩ : ∃ negatable, flag.kind = .switch negatable := by
    unfold FlagKind.isSwitch at hflag
    split at hflag
    · next negatable hkind => exact ⟨negatable, hkind⟩
    · cases hflag
  unfold valueOf at h
  simp only [hkind, FlagKind.isSwitch, FlagKind.ofText?, if_true] at h
  split at h
  · split at h
    · next v' hv =>
        obtain ⟨b, -, rfl⟩ := Option.map_eq_some_iff.mp hv
        cases h
        exact ⟨b, rfl⟩
    · cases h
  · cases h
    exact ⟨true, rfl⟩

/-- Short flags keep what is given for the name of a switch a truth value. -/
theorem shorts_switches (hname : OnlySwitches name) {letters : List Char}
    (hg : g.Switches name) (h : shorts places p.flags letters rest g = .ok (rest', g')) :
    g'.Switches name := by
  induction letters generalizing g with
  | nil =>
      cases h
      exact hg
  | cons letter more ih =>
      rw [shorts] at h
      split at h
      · cases h
      · next flag hflag =>
          have hmem : flag ∈ p.flags := List.mem_of_find?_eq_some hflag
          split at h
          · exact ih (hg.give flag false fun _ => ⟨true, rfl⟩) h
          · dsimp only at h
            split at h
            · cases h
            · next v rest hv =>
                cases h
                exact hg.give flag false fun heq => valueOf_switch (hname p flag hmem heq) hv

/-- So does a long flag. -/
theorem long_switches (hname : OnlySwitches name) {cs : List Char} (hg : g.Switches name)
    (h : long places p.flags cs rest g = .ok (rest', g')) : g'.Switches name := by
  unfold long at h
  dsimp only at h
  split at h
  · cases h
  · next flag negated hflag =>
      obtain ⟨flag, hfind, heq⟩ := Option.map_eq_some_iff.mp hflag
      cases heq
      have hmem : flag ∈ p.flags := List.mem_of_find?_eq_some hfind
      split at h
      · cases h
      · next v rest hv =>
          cases h
          exact hg.give flag _ fun heq => valueOf_switch (hname p flag hmem heq) hv

/-- Whatever arguments are read, a flag that is only a switch is given as one. -/
theorem read_switches (hname : OnlySwitches name) {fuel : Nat} {taken : Bool}
    {arguments : List Argument} (hg : g.Switches name)
    (h : read places fuel taken arguments g = .ok g') : g'.Switches name := by
  induction fuel generalizing taken arguments g with
  | zero =>
      cases h
      exact hg
  | succ fuel ih =>
      rcases arguments with _ | ⟨a, rest⟩
      · cases h
        exact hg
      · unfold read at h
        extract_lets flags sources word at h
        -- A word that is no flag names a command or sources, and gives no flag a value.
        have hword : word = .ok g' → g'.Switches name := by
          intro hword
          unfold word at hword
          split at hword
          · refine ih ?_ hword
            exact hg
          · split at hword
            · refine ih ?_ hword
              exact hg
            · split at hword
              · refine ih ?_ hword
                exact hg
              · cases hword
        split at h
        · exact hword h
        · split at h
          · exact ih hg h
          · split at h
            · cases h
            · next hlong => exact ih (long_switches hname hg hlong) h
          · split at h
            · cases h
            · next hshort => exact ih (shorts_switches hname hg hshort) h
          · exact hword h

/-- What a command line gives for the name of a switch is a truth value. -/
theorem parse_switches (hname : OnlySwitches name) {arguments : List String}
    (h : parse places arguments = .ok g) : g.Switches name :=
  read_switches hname (fun _ hv => by cases hv) h

end Arguments

end

/-! ### The value of a flag in an invocation -/

section

variable {given : Given} {places : Places} {settings : Settings} {i : Invocation}

/-- An invocation has a value for each flag of its place, in the order of the flags. -/
theorem valuesOf_eq {flags : List Flag} {values : List (Flag × FlagValue)}
    (h : given.valuesOf places settings flags = .ok values) :
    values.map Prod.fst = flags ∧
      ∀ fv ∈ values, given.valueOf places settings fv.1 = .ok fv.2 := by
  induction flags generalizing values with
  | nil =>
      cases h
      exact ⟨rfl, fun _ hv => nomatch hv⟩
  | cons flag rest ih =>
      rw [Given.valuesOf] at h
      split at h
      · cases h
      · cases h
      · next v more hv hmore =>
          obtain ⟨hflags, hvalues⟩ := ih hmore
          split at h
          · cases h
            refine ⟨congrArg (flag :: ·) hflags, fun fv hfv => ?_⟩
            rcases List.mem_cons.mp hfv with rfl | hfv
            · exact hv
            · exact hvalues fv hfv
          · cases h

/-- A completed invocation is of the place that was given, and its values are those of the flags of
this place. -/
theorem complete_eq (h : given.complete places settings = .ok i) :
    i.place = given.place ∧ given.valuesOf places settings given.place.flags = .ok i.values := by
  unfold Given.complete at h
  split at h
  · cases h
  · next values hvalues =>
      cases h
      exact ⟨rfl, hvalues⟩

end

/-! ### How far a run gets -/

/-- A run carries out a command: the command line can be read, does not end the program at once,
and can be completed by the configuration, and the variables that it defines have values. -/
structure Request.Invokes (r : Request) (i : Invocation) : Prop where
  invocation : r.invocation? = some i
  goesOn : (Arguments.parse r.places r.arguments).toOption.bind Given.ending = none
  globals : (parseGlobals r.environment (i.texts "define") 1).toOption.isSome

/-- What the command line says about replacing the configuration file, if it says anything. -/
def Request.force? (r : Request) : Option Bool :=
  ((Arguments.parse r.places r.arguments).toOption.bind (·.values.find? "force")).map
    (· == .bool true)

/-- The failure of a run that finds a configuration file. -/
def existsFailure (path : String) : Failure :=
  ((Failure.because .writeConfig [("file", .text path)]).withFields (.made 0)
    [("exists", .bool true)]).wrap (.made 0) (some (.known .fileExists))

/-- The error about a file that exists is known as one. -/
theorem existsFailure_isA (path : String) : (existsFailure path).isA (.known .fileExists) :=
  rfl

section

variable {r : Request} {i : Invocation} {o : Outcome}

/-- An invocation comes of arguments that were parsed to an end and completed with the settings of
the file. -/
theorem invokes_parse (h : r.Invokes i) :
    ∃ given, Arguments.parse r.places r.arguments = .ok given ∧ given.ending = none ∧
      given.complete r.places (settingsOf r.config).1 = .ok i := by
  obtain ⟨hinvocation, hending, -⟩ := h
  unfold Request.invocation? at hinvocation
  cases hparse : Arguments.parse r.places r.arguments with
  | error fault =>
      rw [hparse] at hinvocation
      cases hinvocation
  | ok given =>
      rw [hparse] at hinvocation hending
      refine ⟨given, rfl, hending, ?_⟩
      cases hcomplete : given.complete r.places (settingsOf r.config).1 with
      | error fault =>
          rw [Except.bind, hcomplete] at hinvocation
          cases hinvocation
      | ok i' =>
          rw [Except.bind, hcomplete] at hinvocation
          cases hinvocation
          rfl

/-- A run that carries out a command has done nothing else before. -/
theorem run_of_invokes (h : r.Invokes i) (hfile : r.config ≠ .directory) :
    ∃ options o, run r = carryOut r i options o ∧ o.config = r.config ∧ o.problem = none := by
  obtain ⟨given, hparse, hending, hcomplete⟩ := invokes_parse h
  obtain ⟨⟨globals, fresh⟩, hglobals⟩ := Option.isSome_iff_exists.mp h.globals
  have hglobals : parseGlobals r.environment (i.texts "define") 1 = .ok (globals, fresh) := by
    cases hparsed : parseGlobals r.environment (i.texts "define") 1 with
    | error fault => rw [hparsed] at hglobals; cases hglobals
    | ok result => rw [hparsed] at hglobals; cases hglobals; rfl
  unfold run invoke
  dsimp only
  rw [if_neg hfile, hparse]
  dsimp only
  rw [hending]
  dsimp only
  rw [hcomplete]
  dsimp only
  rw [hglobals]
  exact ⟨_, _, rfl, rfl, rfl⟩

/-- Carrying out another command leaves the configuration file alone. -/
theorem config_carryOut (options : Options) (hi : i.place ≠ .init) :
    (carryOut r i options o).config = o.config := by
  -- The stages of the other commands, from the last one on. None of them writes the file.
  have hoffer : ∀ (o : Outcome) (text : String), (offerOutput o text).config = o.config := by
    intro o text
    unfold offerOutput
    split <;> rfl
  have hrender : ∀ (nodes : List Node) (o : Outcome),
      (renderSources r i options nodes o).config = o.config := by
    intro nodes o
    unfold renderSources
    dsimp only
    split
    · rfl
    · exact hoffer _ _
  have hprint : ∀ (form : PrintForm) (indent : Int) (nodes : List Node) (o : Outcome),
      (printSources form indent nodes o).config = o.config := by
    intro form indent nodes o
    unfold printSources
    split <;> rfl
  have hsources : ∀ {action : List Node → Outcome → Outcome},
      (∀ nodes o, (action nodes o).config = o.config) →
        (withSources r i action o).config = o.config := by
    intro action haction
    unfold withSources
    dsimp only
    split
    · rfl
    · exact haction _ _
  unfold carryOut
  split
  · next hinit => exact absurd hinit hi
  · split <;> rfl
  · exact hsources (hprint _ _)
  · exact hsources (hprint _ _)
  · exact hsources (hprint _ _)
  · exact hsources (hprint _ _)
  · exact hsources hrender
  · exact hsources hrender

/-- A run that does not carry out `init` leaves the configuration file alone. -/
theorem config_run (h : ∀ i, r.Invokes i → i.place ≠ .init) : (run r).config = r.config := by
  -- The run may end in front of the command for one of several reasons, and leaves the file alone
  -- then.
  unfold run
  dsimp only
  split
  · rfl
  · split
    · rfl
    · next given hparse =>
        split
        · rfl
        · rfl
        · next hending =>
            split
            · rfl
            · next i hcomplete =>
                unfold invoke
                dsimp only
                split
                · rfl
                · next globals fresh hglobals =>
                    refine (config_carryOut _ (h i ?_)).trans rfl
                    refine ⟨?_, ?_, ?_⟩
                    · rw [Request.invocation?, hparse]
                      exact congrArg Except.toOption hcomplete
                    · rw [hparse]
                      exact hending
                    · rw [hglobals]
                      rfl

end

/-! ### The force that a file holds -/

/-- The switch that lets `init` replace the configuration file. -/
def forceFlag : Flag := ⟨"force", some 'f', .switch false, .bool false⟩

/-- The flags of the command are those of the program and `--force`. -/
theorem flags_init : Place.init.flags = Place.program.flags ++ [forceFlag] := rfl

/-- A file turns the switch on or off; without a file it is off. -/
def Holds (stored : Bool) : Config.File → Prop
  | .absent => stored = false
  | .directory => False
  | .text content => ∃ settings, Settings.load? content = some settings ∧
      settings.find? "force" = some (.scalar (.bool stored))

/-- The entries that are written for the values of flags. -/
def configEntries (values : List (Flag × FlagValue)) : List (String × Document) :=
  ((values.filter fun v => !isUnwritten v.1).map fun v => (v.1.name, v.2.holding)).filterMap
    fun (name, held) => (configValue held).map fun v => (name, v.toDocument)

/-- Reading the file that is written for an invocation undoes the writing. -/
def Invocation.Decodes (i : Invocation) : Prop :=
  Yaml.read? (configOf i) = some (.map (configEntries i.values))

section

variable {r : Request} {i : Invocation} {stored : Bool}

/-- An entry behind the others is entered after them. -/
theorem flattenEntries_concat (above key : String) (entries : List (String × Document))
    (d : Document) (settings : Settings) :
    Settings.flattenEntries above (entries ++ [(key, d)]) settings
      = Settings.flatten (nameBelow above key) d
          (Settings.flattenEntries above entries settings) := by
  induction entries generalizing settings with
  | nil => rfl
  | cons entry entries ih =>
      obtain ⟨name, d'⟩ := entry
      rw [List.cons_append, Settings.flattenEntries, Settings.flattenEntries, ih]

/-- The switch is the last flag, so that its entry is the last one and counts. -/
theorem holds_configOf {others : List (Flag × FlagValue)}
    (hvalues : i.values = others ++ [(forceFlag, .bool stored)]) (hread : i.Decodes) :
    Holds stored (.text (configOf i)) := by
  have hlast : configEntries [(forceFlag, .bool stored)] = [("force", .bool stored)] := by
    have hwritten : isUnwritten forceFlag = false := by decide
    simp only [configEntries, List.filter_cons, hwritten]
    rfl
  have hentries : configEntries i.values = configEntries others ++ [("force", .bool stored)] := by
    rw [← hlast, hvalues, configEntries, List.filter_append, List.map_append,
      List.filterMap_append]
    rfl
  refine ⟨Settings.flattenEntries "" (configEntries i.values) [], ?_, ?_⟩
  · rw [Settings.load?, hread]
  · have hname : nameBelow "" "force" = "force" := by decide
    rw [hentries, flattenEntries_concat, hname, Settings.flatten, Settings.find?,
      Table.find?_insert, if_pos rfl]
    · rfl
    · rintro _ ⟨⟩
    · rintro _ ⟨⟩

/-- The switch is as the command line says, or else as the file says. -/
theorem valueOf_force {given : Given} {places : Places} {c : Config.File}
    (hgiven : given.Switches "force") (hc : Holds stored c) :
    given.valueOf places (settingsOf c).1 forceFlag
      = .ok (.bool (((given.values.find? "force").map (· == .bool true)).getD stored)) := by
  unfold Given.valueOf
  rw [show forceFlag.name = "force" from rfl]
  rcases hfind : given.values.find? "force" with _ | v
  · cases c with
    | absent =>
        cases hc
        rfl
    | directory => exact hc.elim
    | text content =>
        obtain ⟨settings, hload, hstored⟩ := hc
        have hsettings : (settingsOf (.text content)).1 = settings := by
          rw [settingsOf, hload]
        rw [hsettings]
        dsimp only
        rw [hstored]
        rfl
  · obtain ⟨b, rfl⟩ := hgiven v hfind
    cases b <;> rfl

/-- So the last value of an invocation of `init` is that of the switch. -/
theorem values_of_invokes (h : r.Invokes i) (hinit : i.place = .init)
    (hc : Holds stored r.config) :
    i.isOn "force" = r.force?.getD stored ∧
      ∃ others, i.values = others ++ [(forceFlag, .bool (r.force?.getD stored))] := by
  obtain ⟨given, hparse, -, hcomplete⟩ := invokes_parse h
  obtain ⟨hplace, hvalues⟩ := complete_eq hcomplete
  obtain ⟨hflags, hvalue⟩ := valuesOf_eq hvalues
  rw [← hplace, hinit, flags_init] at hflags
  obtain ⟨others, last, hsplit, hothers, hlast⟩ := List.map_eq_append_iff.mp hflags
  obtain ⟨⟨flag, v⟩, rfl, hflag⟩ := List.map_eq_singleton_iff.mp hlast
  obtain rfl : flag = forceFlag := hflag
  have hforce : r.force? = (given.values.find? "force").map (· == .bool true) := by
    rw [Request.force?, hparse]
    rfl
  have hv : FlagValue.bool (r.force?.getD stored) = v := by
    have hgiven := Arguments.parse_switches onlySwitches_force hparse
    have hmem : (forceFlag, v) ∈ i.values := hsplit ▸ List.mem_append_right _ List.mem_cons_self
    have heq := (valueOf_force hgiven hc).symm.trans (hvalue _ hmem)
    rw [hforce]
    exact Except.ok.inj heq
  -- No flag of the program has this name, so the switch is the only value under it.
  have hnone : others.find? (fun v => v.1.name = "force") = none := by
    rw [List.find?_eq_none]
    intro fv hfv hname
    have hmem : fv.1 ∈ Place.program.flags := hothers ▸ List.mem_map_of_mem hfv
    have hdiff : ∀ flag ∈ Place.program.flags, flag.name ≠ "force" := by decide
    exact hdiff _ hmem (of_decide_eq_true hname)
  refine ⟨?_, others, hv ▸ hsplit⟩
  rw [Invocation.isOn, Invocation.value?, hsplit, List.find?_append, hnone, ← hv]
  cases r.force?.getD stored <;> rfl

end

/-! ### One run after another -/

section

variable {r : Request} {i : Invocation} {stored : Bool} {asked : List (Option Bool)}
  {c : Config.File}

/-- What a run of `init` does: it writes the file if there is none or if the switch is on. -/
theorem run_init (h : r.Invokes i) (hinit : i.place = .init) (hc : Holds stored r.config) :
    if r.config = .absent ∨ r.force?.getD stored = true then
      (run r).config = .text (configOf i) ∧ (run r).problem = none
    else
      (run r).config = r.config ∧
        (run r).problem = some (.failure (existsFailure r.configPath)) := by
  have hfile : r.config ≠ .directory := fun heq => by
    rw [heq] at hc
    exact hc
  obtain ⟨options, o, hrun, hconfig, hproblem⟩ := run_of_invokes h hfile
  obtain ⟨hon, -⟩ := values_of_invokes h hinit hc
  have hcarry : carryOut r i options o = writeConfig r i o := by rw [carryOut, hinit]
  rw [hrun, hcarry, writeConfig, hon]
  cases hstate : r.config with
  | absent => exact ⟨rfl, hproblem⟩
  | directory => exact absurd hstate hfile
  | text content =>
      cases r.force?.getD stored with
      | true => exact ⟨rfl, hproblem⟩
      | false => exact ⟨hconfig.trans hstate, rfl⟩

/-- Runs of the program one after another, that begin without a configuration file: what the command
lines of `init` said about replacing the file, the last first, and the file that is left. What was
written can be read. -/
inductive Leaves : List (Option Bool) → Config.File → Prop
  | nothing : Leaves [] .absent
  | other {r : Request} {asked : List (Option Bool)} : Leaves asked r.config →
      (∀ i, r.Invokes i → i.place ≠ .init) → Leaves asked (run r).config
  | init {r : Request} {i : Invocation} {asked : List (Option Bool)} : Leaves asked r.config →
      r.Invokes i → i.place = .init → i.Decodes → Leaves (r.force? :: asked) (run r).config

/-- There is no file as long as no run of `init` came to its command. Afterwards the file holds
whether any of them was asked to replace it. -/
theorem Leaves.holds (h : Leaves asked c) :
    (c = .absent → asked = []) ∧ Holds (decide (some true ∈ asked)) c := by
  induction h with
  | nothing => exact ⟨fun _ => rfl, rfl⟩
  | other _ hother ih => exact (config_run hother) ▸ ih
  | @init r i asked _ hi hinit hread ih =>
      obtain ⟨hnone, hholds⟩ := ih
      have hrun := run_init hi hinit hholds
      split at hrun
      · next hwritten =>
          -- The file holds what the switch was.
          have hnow : r.force?.getD (decide (some true ∈ asked))
              = decide (some true ∈ r.force? :: asked) := by
            rcases hforce : r.force? with _ | b
            · simp
            · rcases hwritten with habsent | hon
              · simp [hnone habsent]
              · obtain rfl : b = true := by simpa [hforce] using hon
                simp
          obtain ⟨-, others, hvalues⟩ := values_of_invokes hi hinit hholds
          rw [hrun.1, ← hnow]
          exact ⟨(nomatch ·), holds_configOf hvalues hread⟩
      · next hkept =>
          -- The run was not asked to replace the file, and the file stays.
          obtain ⟨hexists, hoff⟩ := not_or.mp hkept
          have hnot : r.force? ≠ some true := fun heq => hoff (by rw [heq]; rfl)
          have hnow : decide (some true ∈ r.force? :: asked) = decide (some true ∈ asked) := by
            simp [Ne.symm hnot]
          rw [hrun.1, hnow]
          exact ⟨fun habsent => absurd habsent hexists, hholds⟩

/-- **Who may replace the configuration file.** Runs of the program begin without a configuration
file, and the last of them finds one. It is a run of `init` that comes to its command, and its
command line does not say anything about replacing the file. If no run of `init` before it was
asked to replace the file, the run fails because the file exists, and leaves it as it is. If one
was, the run replaces the file without a failure. -/
theorem Leaves.init_existing (h : Leaves asked r.config) (hfile : r.config ≠ .absent)
    (hi : r.Invokes i) (hinit : i.place = .init) (hsilent : r.force? = none) :
    if some true ∈ asked then
      (run r).config = .text (configOf i) ∧ (run r).problem = none
    else
      (run r).config = r.config ∧
        ∃ f, (run r).problem = some (.failure f) ∧ f.isA (.known .fileExists) := by
  have hrun := run_init hi hinit h.holds.2
  rw [hsilent, Option.getD_none] at hrun
  split
  · next hasked =>
      rw [if_pos (Or.inr (decide_eq_true hasked))] at hrun
      exact hrun
  · next hasked =>
      rw [if_neg (not_or.mpr ⟨hfile, mt of_decide_eq_true hasked⟩)] at hrun
      exact ⟨hrun.1, _, hrun.2, existsFailure_isA _⟩

/-- A request without files, variables and input. -/
def plainRequest (arguments : List String) (config : Config.File) : Request where
  arguments := arguments
  files := ⟨"/", fun _ => Files.missing⟩
  home := "/home"
  input := ""
  terminal := false
  environment := fun _ => ""
  config := config
  configPath := "/home/config.yaml"
  output := .empty none
  now := 0

/-- What `init` writes if all other flags have their initial values. -/
def plainText (depth force : String) : String :=
  "log-level: info\nlog-format: text\nlog-time-layout: RFC3339\nlog-caller: false\n" ++
    "log-pretty: true\nmax-depth: " ++ depth ++ "\nforce: " ++ force ++ "\n"

/-- An invocation of `init` with initial values of all other flags. -/
def plainInvocation (depth : Int) (force : Bool) : Invocation where
  place := .init
  sources := []
  values := Place.init.flags.zip [.bool false, .bool false, .text "info", .text "text",
    .text "RFC3339", .bool false, .bool true, .texts [], .texts [], .number depth, .bool force]

set_option maxRecDepth 10000 in
/-- Two runs of `init`, neither of which is asked to replace the file. -/
theorem Leaves.init_existing_silent :
    let second := plainRequest ["init", "--max-depth", "7"] (.text (plainText "1000" "false"))
    Leaves [none] second.config ∧ second.config ≠ .absent ∧
      second.Invokes (plainInvocation 7 false) ∧ second.force? = none ∧
      (run second).config = second.config ∧
      ∃ f, (run second).problem = some (.failure f) ∧ f.isA (.known .fileExists) := by
  intro second
  have hfirst : (plainRequest ["init"] .absent).Invokes (plainInvocation 1000 false) :=
    ⟨by decide +kernel, by decide +kernel, by decide +kernel⟩
  have htext : configOf (plainInvocation 1000 false) = plainText "1000" "false" := by
    decide +kernel
  have hread : (plainInvocation 1000 false).Decodes := by
    rw [Invocation.Decodes, htext]
    with_unfolding_all rfl
  -- The first run finds no file, so it writes one.
  have hnone : (plainRequest ["init"] .absent).config = .absent := rfl
  have hwritten := run_init hfirst rfl (show Holds false .absent from rfl)
  rw [if_pos (Or.inl hnone)] at hwritten
  have hconfig : (run (plainRequest ["init"] .absent)).config = second.config :=
    hwritten.1.trans (congrArg Config.File.text htext)
  have hleaves : Leaves [none] second.config := hconfig ▸ .init .nothing hfirst rfl hread
  have hsecond : second.Invokes (plainInvocation 7 false) :=
    ⟨by decide +kernel, by decide +kernel, by decide +kernel⟩
  have hsilent : second.force? = none := by decide +kernel
  have hexists : second.config ≠ .absent := nofun
  exact ⟨hleaves, hexists, hsecond, hsilent,
    hleaves.init_existing hexists hsecond rfl hsilent⟩

/-- **A file that was forced is replaced.** The first run of `init` is asked to replace the file and
writes this into it. The second is not asked and replaces the file all the same. -/
theorem init_replaces_forced :
    let first := plainRequest ["init", "--force"] .absent
    let second := plainRequest ["init", "--max-depth", "7"] (run first).config
    (run first).config = .text (plainText "1000" "true") ∧ second.force? = none ∧
      (run second).config = .text (plainText "7" "true") ∧ (run second).problem.isNone := by
  intro first second
  have hfirst : (run first).config = .text (plainText "1000" "true") := by decide +kernel
  refine ⟨hfirst, by decide +kernel, ?_⟩
  rw [show second = plainRequest ["init", "--max-depth", "7"] _ from rfl, hfirst]
  decide +kernel

end

end TagScript.Command
