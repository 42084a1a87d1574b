/-
**Diagnostics stand apart.**

A level of diagnostics says which records are shown, and nothing else.  Two runs of the program that
differ in the level only print the same, ask the daemon the same and end in the same way; and from
the level of warnings on, a run shows no record at all, so that the error stream holds only what was
said about the settings file before, and the error that the program ends with.

Main definitions:

* `WorkspaceWatch.Situation.AsksLevel`, `WorkspaceWatch.Situation.LevelIs` — the level that a run
  sets diagnostics up for;
* `WorkspaceWatch.Situation.SameButLevel` — two runs differ in the level only;
* `WorkspaceWatch.ProgramEnd.Complains`, `WorkspaceWatch.Situation.ShowsNoRecord` — the error that
  the program ends with, and a report that shows nothing else as errors.

Main results:

* `WorkspaceWatch.Situation.sameButLevel_option` — so do runs with another level as the first
  option and in the surroundings;
* `WorkspaceWatch.Situation.SameButLevel.run_butErr` — **runs that differ in the level only differ in
  the error stream only**;
* `WorkspaceWatch.Situation.showsNoRecord_run` — **from the level of warnings on, no record is
  shown**;
* `WorkspaceWatch.Situation.diagnostics_stand_apart` — **both, with the records of a session**.
-/

import WorkspaceWatch.Proofs.Configuration
import WorkspaceWatch.Proofs.RecordsShown
import WorkspaceWatch.Proofs.Remarks

set_option autoImplicit false

namespace WorkspaceWatch

/-! ### Settings and options but for the level -/

/-- Settings without their level. -/
def Settings.butLevel (s : Settings) : Settings := { s with logLevel := "" }

theorem Settings.butLevel_eq_iff (s s' : Settings) : s'.butLevel = s.butLevel ↔
    s'.baseUrl = s.baseUrl ∧ s'.connectTimeout = s.connectTimeout ∧
      s'.pollInterval = s.pollInterval := by
  simp only [butLevel, mk.injEq, true_and]

/-- The level has no part in what a command is told. -/
theorem Command.ofGiven_congr {settings settings' : Settings}
    (h : settings'.butLevel = settings.butLevel) (v : Verb) (g : Given) :
    ofGiven settings' v g = ofGiven settings v g := by
  obtain ⟨-, -, hpause⟩ := (Settings.butLevel_eq_iff _ _).1 h
  cases v <;> simp only [ofGiven, pauseOf, hpause]

/-- Surroundings differ in the level only: each other setting has the same text, and the same names
are stray. -/
structure Surroundings.SameButLevel (s s' : Surroundings) : Prop where
  /-- The other settings have their texts. -/
  text? : ∀ f ∈ Settings.names, f ≠ "log_level" → s'.text? f = s.text? f
  /-- The same names are stray. -/
  stray : s'.stray = s.stray

/-- Another level in the environment makes a difference in the level only, unless the settings file
refers to it. -/
theorem Surroundings.sameButLevel_environment {name : String}
    (hname : Settings.Means name "log_level") (level level' : String)
    (environment : List (String × String)) {file? : Option String}
    (hfile : (⟨(name, level') :: environment, file?⟩ : Surroundings).fileBindings =
      (⟨(name, level) :: environment, file?⟩ : Surroundings).fileBindings) :
    SameButLevel ⟨(name, level) :: environment, file?⟩ ⟨(name, level') :: environment, file?⟩ := by
  constructor
  · intro f hf hne
    -- the name means no other setting
    have hother : ¬Settings.Means name f := by
      intro hmeans
      rw [Settings.Means] at hname hmeans
      rw [hname] at hmeans
      simp only [Settings.names, List.mem_cons, List.not_mem_nil, or_false] at hf
      rcases hf with rfl | rfl | rfl | rfl
      · exact hne rfl
      all_goals revert hmeans; decide
    simp only [text?, environmentText?, fileText?, hfile, List.filter_cons, hother, decide_false,
      Bool.false_eq_true, if_false]
  · simp only [stray, hfile]

/-- What the settings are loaded from but for the level gives them but for the level. -/
theorem Settings.load_butLevel {s s' : Surroundings} (h : s.SameButLevel s') :
    (load [] s').map butLevel = (load [] s).map butLevel := by
  have hurl := h.text? "base_url" (by decide) (by decide)
  have htimeout := h.text? "connect_timeout" (by decide) (by decide)
  have hinterval := h.text? "poll_interval" (by decide) (by decide)
  have hunreadable : unreadable s'.text? = unreadable s.text? := by
    simp only [unreadable, List.filter_cons, List.filter_nil, htimeout, hinterval]
  cases hload : load [] s with
  | ok x =>
      rw [load_eq_ok_iff, readAll_text_eq_ok_iff] at hload
      obtain ⟨⟨-, hbase, hconnect, hpoll⟩, hstray⟩ := hload
      -- the other settings load with the level that these surroundings give
      have hload' : load [] s' =
          .ok { x with logLevel := (s'.text? "log_level").getD "WARNING" } := by
        rw [load_eq_ok_iff, readAll_text_eq_ok_iff, hurl, htimeout, hinterval, h.stray]
        exact ⟨⟨rfl, hbase, hconnect, hpoll⟩, hstray⟩
      rw [hload']
      rfl
  | error r =>
      have hload' : load [] s' = .error r := by
        rw [load_eq_error_iff] at hload ⊢
        rwa [hunreadable, h.stray]
      rw [hload']

namespace Given

/-- Options and arguments without the options about the level. -/
def butLevel (g : Given) : Given :=
  { g with options := g.options.filter (·.1.name != "--log-level") }

variable {g g' : Given}

theorem wantsHelp_congr (h : g'.butLevel = g.butLevel) : g'.wantsHelp = g.wantsHelp := by
  -- the option for help is not about the level
  have hbut : ∀ g : Given, g.butLevel.wantsHelp = g.wantsHelp := by
    intro g
    simp only [wantsHelp, butLevel, List.any_filter]
    refine congrArg (List.any g.options) (funext fun o => ?_)
    by_cases hhelp : o.1.name = helpOption.name
    · rw [hhelp]
      decide
    · simp [hhelp]
  rw [← hbut g', h, hbut]

theorem value?_congr (h : g'.butLevel = g.butLevel) {name : String} (hname : name ≠ "--log-level") :
    g'.value? name = g.value? name := by
  have hbut : ∀ g : Given, g.butLevel.value? name = g.value? name := by
    intro g
    simp only [value?, values, butLevel, List.filterMap_filter]
    refine congrArg List.getLast?
      (congrArg (fun f => List.filterMap f g.options) (funext fun o => ?_))
    by_cases ho : o.1.name = name
    · simp [ho, hname]
    · simp [ho]
  rw [← hbut g', h, hbut]

theorem words_congr (h : g'.butLevel = g.butLevel) : g'.words = g.words := by
  have hbut : ∀ g : Given, g.butLevel.words = g.words := fun _ => rfl
  rw [← hbut g', h, hbut]

/-- Options that were found before stand before those that are found later. -/
theorem scan_append (c : CommandSpec) (anywhere : Bool)
    (before options : List (OptionSpec × Option String)) (others words : List String) :
    scan c anywhere (options ++ before) others words =
      (scan c anywhere options others words).map fun g =>
        { g with options := before.reverse ++ g.options } := by
  fun_induction scan c anywhere options others words with
  -- the words end, what follows is no option, or an option cannot be read
  | case1 | case2 | case3 | case4 | case7 | case10 => simp_all [scan, Except.map]
  -- the scan goes on with one more option or one more word
  | case5 | case6 | case8 | case9 => simp_all [scan]

/-- Words that give options and arguments differently from none at all are words. -/
theorem isEmpty_of_ofProgramWords {words : List String} {read : Except UsageError Given}
    (hread : ofProgramWords words = read) (hne : read ≠ .ok ⟨[], []⟩) :
    words.isEmpty = false := by
  cases words with
  | nil => exact absurd hread.symm hne
  | cons => rfl

/-- The option about the level. -/
def levelOption : OptionSpec :=
  ⟨"--log-level", some .text, "Log level for stderr (default: from SIDE_LOG_LEVEL).", none, false⟩

/-- A level in front of the words is all that it adds to them. -/
theorem ofProgramWords_level (level : String) (words : List String) :
    (ofProgramWords ("--log-level" :: level :: words)).map butLevel =
      (ofProgramWords words).map butLevel := by
  have hread : ofProgramWords ("--log-level" :: level :: words) =
      scan programSpec false [(levelOption, some level)] [] words := rfl
  have happend := scan_append programSpec false [(levelOption, some level)] [] [] words
  rw [List.nil_append] at happend
  rw [hread, happend, ofProgramWords]
  cases scan programSpec false [] [] words with
  | error e => rfl
  | ok g => rfl

end Given

/-! ### Runs that differ in the level only -/

/-- A report without what is printed as errors and diagnostics. -/
def ProgramReport.butErr (p : ProgramReport) : ProgramReport := { p with err := "" }

theorem ProgramReport.butErr_eq_iff (p p' : ProgramReport) : p'.butErr = p.butErr ↔
    p'.out = p.out ∧ p'.requests = p.requests ∧ p'.pause? = p.pause? ∧ p'.ending = p.ending := by
  simp only [butErr, mk.injEq, true_and]

theorem ProgramReport.butErr_afterErr (shown : String) (p : ProgramReport) :
    (p.afterErr shown).butErr = p.butErr := rfl

theorem Action.butErr_report (a : Action) (d d' : Diagnostics) (onTerminal : Bool) :
    (a.report d' onTerminal).butErr = (a.report d onTerminal).butErr := by
  cases h : a.ending <;> simp only [report, ProgramReport.butErr, h]

namespace Situation

/-- Diagnostics are set up for a level, given by its name: that of the option, or else that of the
settings.  A run whose words cannot be read or whose settings cannot be loaded asks for none. -/
inductive AsksLevel (s : Situation) (words : List String) (name : String) : Prop
  | intro {g : Given} {settings : Settings} : Given.ofProgramWords words = .ok g →
      Settings.load [] s.surroundings = .ok settings →
      Command.Picks (g.value? "--log-level") settings.logLevel name → AsksLevel s words name

/-- The level that a run asks for is known, and is one of some levels. -/
def LevelIs (s : Situation) (words : List String) (p : Level → Prop) : Prop :=
  ∀ name, s.AsksLevel words name → ∃ l, Level.named? (upperCase name) = some l ∧ p l

/-- Two runs differ in the level only, be it in their words or in their surroundings. -/
structure SameButLevel (s : Situation) (words : List String) (s' : Situation)
    (words' : List String) : Prop where
  /-- They start in the same directory. -/
  directory : s'.directory = s.directory
  /-- They have the same client, if any. -/
  client? : s'.client? = s.client?
  /-- The daemon does the same. -/
  reactions : s'.reactions = s.reactions
  /-- They both print on a terminal, or neither does. -/
  onTerminal : s'.onTerminal = s.onTerminal
  /-- The surroundings differ in the level only. -/
  surroundings : s.surroundings.SameButLevel s'.surroundings
  /-- So do the words. -/
  words : (Given.ofProgramWords words').map Given.butLevel =
    (Given.ofProgramWords words).map Given.butLevel

variable {s s' : Situation} {words words' : List String}

/-- Another level as the first option, and another one in the surroundings, make a difference in the
level only. -/
theorem sameButLevel_option (s : Situation) {surroundings : Surroundings}
    (h : s.surroundings.SameButLevel surroundings) (level level' : String) (words : List String) :
    s.SameButLevel ("--log-level" :: level :: words) { s with surroundings }
      ("--log-level" :: level' :: words) where
  directory := rfl
  client? := rfl
  reactions := rfl
  onTerminal := rfl
  surroundings := h
  words := by rw [Given.ofProgramWords_level, Given.ofProgramWords_level]

/-- A level that is known sets diagnostics up. -/
theorem LevelIs.exists_setup {p : Level → Prop} (h : s.LevelIs words p) {g : Given}
    {settings : Settings} (hread : Given.ofProgramWords words = .ok g)
    (hload : Settings.load [] s.surroundings = .ok settings) :
    ∃ l, p l ∧ Diagnostics.setup {} (Command.orElse (g.value? "--log-level") settings.logLevel) =
      (.ok ((Diagnostics.readied {} l).emit Level.debug.number
        ("Logging initialised (level=" ++ l.name ++ ")") .setup), Diagnostics.readied {} l) := by
  obtain ⟨l, hl, hp⟩ := h _ ⟨hread, hload, (Command.picks_iff _ _ _).2 rfl⟩
  exact ⟨l, hp, Diagnostics.setup_of_known {} hl⟩

/-! ### Runs that reach no command -/

variable {g : Given} {word : String} {rest : List String}

theorem run_of_misread {e : UsageError} (hread : Given.ofProgramWords words = .error e) :
    s.run words = .misuse programSpec e := by
  simp only [run, Given.isEmpty_of_ofProgramWords hread (by simp), hread, Bool.false_eq_true,
    if_false]

theorem run_of_help (hread : Given.ofProgramWords words = .ok g) (hhelp : g.wantsHelp = true) :
    s.run words = .help programSpec := by
  have hne : Except.ok g ≠ (.ok ⟨[], []⟩ : Except UsageError Given) := by
    intro h
    cases h
    cases hhelp
  simp only [run, Given.isEmpty_of_ofProgramWords hread hne, hread, hhelp, Bool.false_eq_true,
    if_false, if_true]

/-- Without a word for a command there is help if there are no words, and else a complaint. -/
theorem run_of_noCommand (hread : Given.ofProgramWords words = .ok g)
    (hhelp : g.wantsHelp = false) (hrest : g.words = []) :
    s.run words = { err := Help.text programSpec, ending := .exit 2 } ∨
      s.run words = .misuse programSpec .noCommand := by
  cases words with
  | nil => exact .inl rfl
  | cons word words =>
      right
      simp only [run, List.isEmpty_cons, hread, hhelp, hrest, Bool.false_eq_true, if_false]

theorem butErr_run_of_noCommand (hread : Given.ofProgramWords words = .ok g)
    (hhelp : g.wantsHelp = false) (hrest : g.words = []) :
    (s.run words).butErr = { ending := .exit 2 } := by
  rcases @run_of_noCommand s words g hread hhelp hrest with h | h <;> rw [h] <;> rfl

theorem run_of_unknown (hread : Given.ofProgramWords words = .ok g) (hhelp : g.wantsHelp = false)
    (hrest : g.words = word :: rest) (hnamed : Verb.named? word = none) :
    s.run words = unknown word rest := by
  have hne : Except.ok g ≠ (.ok ⟨[], []⟩ : Except UsageError Given) := by
    intro h
    cases h
    cases hrest
  simp only [run, Given.isEmpty_of_ofProgramWords hread hne, hread, hhelp, hrest, hnamed,
    Bool.false_eq_true, if_false]

namespace SameButLevel

theorem client_eq (h : s.SameButLevel words s' words') {g g' : Given}
    (hg : g'.butLevel = g.butLevel) {settings settings' : Settings}
    (hsettings : settings'.butLevel = settings.butLevel) :
    s'.client g' settings' = s.client g settings := by
  obtain ⟨hurl, htimeout, -⟩ := (Settings.butLevel_eq_iff _ _).1 hsettings
  simp only [client, h.client?, Given.value?_congr hg (show "--base-url" ≠ "--log-level" by decide),
    hurl, htimeout]

/-- A command runs alike whatever is shown of it. -/
theorem runVerb_butErr (h : s.SameButLevel words s' words') {settings settings' : Settings}
    (hsettings : settings'.butLevel = settings.butLevel) (c : Client) (d d' : Diagnostics)
    (v : Verb) (rest : List String) :
    (s'.runVerb settings' c d' v rest).butErr = (s.runVerb settings c d v rest).butErr := by
  unfold runVerb
  cases Given.ofWords v.spec rest with
  | error e => rfl
  | ok g =>
      simp only [h.directory, h.reactions, h.onTerminal, Command.ofGiven_congr hsettings v g]
      split
      · rfl
      · split
        · rfl
        · exact Action.butErr_report _ d d' s.onTerminal

/-- A command that is reached starts alike if both levels are known. -/
theorem start_butErr (h : s.SameButLevel words s' words') {p p' : Level → Prop}
    (hlevel : s.LevelIs words p) (hlevel' : s'.LevelIs words' p') {g g' : Given}
    (hread : Given.ofProgramWords words = .ok g) (hread' : Given.ofProgramWords words' = .ok g')
    (hg : g'.butLevel = g.butLevel) (v : Verb) (rest : List String) :
    (s'.start g' v rest).butErr = (s.start g v rest).butErr := by
  simp only [start, ProgramReport.butErr_afterErr]
  rcases (map_eq_map_iff _ _ _).1 (Settings.load_butLevel h.surroundings) with
    ⟨r, hload, hload'⟩ | ⟨settings, settings', hload, hload', hsettings⟩
  · rw [hload, hload']
  · obtain ⟨l, -, hsetup⟩ := hlevel.exists_setup hread hload
    obtain ⟨l', -, hsetup'⟩ := hlevel'.exists_setup hread' hload'
    simp only [hload, hload', hsetup, hsetup', ProgramReport.butErr_afterErr,
      h.client_eq hg hsettings]
    exact h.runVerb_butErr hsettings _ _ _ v rest

/-- **Runs that differ in the level only differ in the error stream only**, if both levels are
known. -/
theorem run_butErr (h : s.SameButLevel words s' words') {p p' : Level → Prop}
    (hlevel : s.LevelIs words p) (hlevel' : s'.LevelIs words' p') :
    (s'.run words').butErr = (s.run words).butErr := by
  rcases (map_eq_map_iff _ _ _).1 h.words with ⟨e, hread, hread'⟩ | ⟨g, g', hread, hread', hg⟩
  · rw [run_of_misread hread, run_of_misread hread']
  · have hhelp := Given.wantsHelp_congr hg
    have hcut := Given.words_congr hg
    cases hasks : g.wantsHelp with
    | true => rw [run_of_help hread hasks, run_of_help hread' (hhelp.trans hasks)]
    | false =>
        rw [hasks] at hhelp
        cases hrest : g.words with
        | nil =>
            rw [hrest] at hcut
            rw [butErr_run_of_noCommand hread hasks hrest,
              butErr_run_of_noCommand hread' hhelp hcut]
        | cons word rest =>
            rw [hrest] at hcut
            cases hnamed : Verb.named? word with
            | none =>
                rw [run_of_unknown hread hasks hrest hnamed,
                  run_of_unknown hread' hhelp hcut hnamed]
            | some v =>
                rw [Reaches.run_eq_start ⟨hread, hasks, word, hrest, hnamed⟩ s,
                  Reaches.run_eq_start ⟨hread', hhelp, word, hcut, hnamed⟩ s']
                exact h.start_butErr hlevel hlevel' hread hread' hg v rest

end SameButLevel

end Situation

/-! ### Runs that show no record -/

/-- The error that a program says about the way it ends: the message of a failure, what is wrong
with the command line, or help for one without words. -/
inductive ProgramEnd.Complains : ProgramEnd → String → Prop
  | success : Complains (.exit 0) ""
  | failure (message : String) : Complains (.exit 1) (ProgramReport.errorLine message)
  | misuse (c : CommandSpec) (e : UsageError) : Complains (.exit 2) (ProgramReport.misuse c e).err
  | noWords : Complains (.exit 2) (Help.text programSpec)
  | crash (why : Crash) : Complains (.crash why) ""
  | endless : Complains .endless ""

/-- A report whose errors are only about the way it ends. -/
def ProgramReport.OnlyComplains (p : ProgramReport) : Prop := p.ending.Complains p.err

/-- The records of a command are all for those who look for a fault. -/
theorem Command.level_of_mem_remarks_run (command : Command) (c : Client) (directory : String)
    (reactions : List Reaction) :
    ∀ r ∈ (command.run c directory reactions).remarks, r.level = .debug := by
  apply @run_induction (fun a => ∀ r ∈ a.remarks, r.level = .debug) c
  · exact fun _ _ _ hr => nomatch hr
  · intro α call reactions next hnext r hr
    simp only [Action.call, Action.after, List.mem_append] at hr
    rcases hr with hr | hr
    · obtain ⟨note, -, rfl⟩ := List.mem_map.1 hr
      exact note.level_eq
    · cases hresult : (c.run call reactions).result with
      | ok v =>
          rw [hresult] at hr
          exact hnext v _ r hr
      | error e =>
          rw [hresult] at hr
          cases e <;> cases hr
  · exact fun _ _ h => h
  · intro pause a h r hr
    rcases List.mem_cons.1 hr with rfl | hr
    · rfl
    · exact h r hr

section Hidden

variable {l : Level} (hl : Level.warning.number ≤ l.number) {d : Diagnostics} (hd : d.InForce l)

include hl hd

/-- From the level of warnings on, it is not shown that diagnostics were set up. -/
theorem Diagnostics.InForce.emit_setup_eq_empty (message : String) :
    d.emit Level.debug.number message .setup = "" := by
  have hlow : ¬l.number ≤ Level.debug.number := by
    simp only [Level.number] at hl ⊢
    omega
  rw [hd.emit_eq, if_neg hlow]

/-- A command whose records are not shown only says how it ends. -/
theorem Action.onlyComplains_report {a : Action} (ha : ∀ r ∈ a.remarks, r.level = .debug)
    (onTerminal : Bool) : (a.report d onTerminal).OnlyComplains := by
  have hshown : d.remarks a.remarks = "" := by
    refine hd.remarks_eq_empty fun r hr => ?_
    rw [ha r hr]
    simp only [Level.number] at hl ⊢
    omega
  unfold ProgramReport.OnlyComplains report
  simp only [hshown, String.empty_append]
  cases a.ending with
  | done => exact .success
  | failed message => exact .failure message
  | escaped m => exact .crash _
  | exhausted => exact .crash _
  | endless => exact .endless

end Hidden

namespace Situation

variable {s : Situation} {words : List String}

/-- A report shows no record: its errors are only about the way it ends, perhaps behind what was
said about the settings file. -/
def ShowsNoRecord (s : Situation) (p : ProgramReport) : Prop :=
  ∃ complaint, p.ending.Complains complaint ∧
    (p.err = complaint ∨ p.err = s.surroundings.warnings ++ complaint)

theorem onlyComplains_help (c : CommandSpec) : (ProgramReport.help c).OnlyComplains := .success

theorem onlyComplains_misuse (c : CommandSpec) (e : UsageError) :
    (ProgramReport.misuse c e).OnlyComplains := .misuse c e

theorem onlyComplains_noWords :
    ProgramReport.OnlyComplains { err := Help.text programSpec, ending := .exit 2 } := by
  unfold ProgramReport.OnlyComplains
  dsimp only
  exact .noWords

theorem onlyComplains_unknown (word : String) (rest : List String) :
    (unknown word rest).OnlyComplains := by
  unfold unknown
  split
  · split
    · exact onlyComplains_misuse _ _
    · split
      · exact onlyComplains_help _
      · exact onlyComplains_misuse _ _
  · exact onlyComplains_misuse _ _

theorem onlyComplains_runVerb {l : Level} (hl : Level.warning.number ≤ l.number)
    {d : Diagnostics} (hd : d.InForce l) (settings : Settings) (c : Client) (v : Verb)
    (rest : List String) : (s.runVerb settings c d v rest).OnlyComplains := by
  unfold runVerb
  split
  · exact onlyComplains_misuse _ _
  · split
    · exact onlyComplains_help _
    · split
      · exact onlyComplains_misuse _ _
      · exact Action.onlyComplains_report hl hd (Command.level_of_mem_remarks_run _ _ _ _) _

/-- A command that is reached with such a level shows no record. -/
theorem showsNoRecord_start (h : s.LevelIs words fun l => Level.warning.number ≤ l.number)
    {g : Given} (hread : Given.ofProgramWords words = .ok g) (v : Verb) (rest : List String) :
    s.ShowsNoRecord (s.start g v rest) := by
  unfold start
  cases hload : Settings.load [] s.surroundings with
  | error r => exact ⟨"", .crash _, .inr rfl⟩
  | ok settings =>
      obtain ⟨l, hl, hsetup⟩ := h.exists_setup hread hload
      have hd := Diagnostics.inForce_readied {} l
      simp only [hsetup, hd.emit_setup_eq_empty hl]
      refine ⟨_, onlyComplains_runVerb hl hd settings _ v rest, .inr ?_⟩
      simp only [ProgramReport.afterErr, String.empty_append]

/-- **From the level of warnings on, no record is shown.** -/
theorem showsNoRecord_run (h : s.LevelIs words fun l => Level.warning.number ≤ l.number) :
    s.ShowsNoRecord (s.run words) := by
  have hcalm : ∀ {p : ProgramReport}, p.OnlyComplains → s.ShowsNoRecord p :=
    fun hp => ⟨_, hp, .inl rfl⟩
  cases hread : Given.ofProgramWords words with
  | error e =>
      rw [run_of_misread hread]
      exact hcalm (onlyComplains_misuse _ e)
  | ok g =>
      cases hasks : g.wantsHelp with
      | true =>
          rw [run_of_help hread hasks]
          exact hcalm (onlyComplains_help _)
      | false =>
          cases hrest : g.words with
          | nil =>
              rcases @run_of_noCommand s words g hread hasks hrest with hrun | hrun
              · rw [hrun]
                exact hcalm onlyComplains_noWords
              · rw [hrun]
                exact hcalm (onlyComplains_misuse _ _)
          | cons word rest =>
              cases hnamed : Verb.named? word with
              | none =>
                  rw [run_of_unknown hread hasks hrest hnamed]
                  exact hcalm (onlyComplains_unknown word rest)
              | some v =>
                  rw [Reaches.run_eq_start ⟨hread, hasks, word, hrest, hnamed⟩ s]
                  exact showsNoRecord_start h hread v rest

/-- **Diagnostics stand apart.**  A session makes exactly the records that its steps ask for, all of
them for those who look for a fault, and one about a missing list of workspaces tells why it is
missing.  Two runs that differ in the level only, both levels being known, print the same, end in the
same way and ask the daemon the same; and from the level of warnings on a run shows no record. -/
theorem diagnostics_stand_apart :
    (∀ (c : Client) (reactions : List Reaction) (steps : List Session.Step)
      (records : List Remark), Session.Trace c reactions steps records ↔
        records = (Session.run c reactions steps).flatMap Session.remarks) ∧
    (∀ (c : Client) (reactions : List Reaction) (steps : List Session.Step),
      ∀ r ∈ (Session.run c reactions steps).flatMap Session.remarks, r.level = .debug) ∧
    (∀ (c : Client) (reactions : List Reaction) (lapse : Lapse) (text : String),
      c.Lapses reactions lapse text →
        ∀ lapse' : Lapse, lapse'.Opens text ↔ lapse' = lapse) ∧
    (∀ (s s' : Situation) (words words' : List String), s.SameButLevel words s' words' →
      s.LevelIs words (fun _ => True) → s'.LevelIs words' (fun _ => True) →
        (s'.run words').out = (s.run words).out ∧ (s'.run words').ending = (s.run words).ending ∧
          (s'.run words').requests = (s.run words).requests) ∧
    (∀ (s : Situation) (words : List String),
      s.LevelIs words (fun l => Level.warning.number ≤ l.number) →
        s.ShowsNoRecord (s.run words)) := by
  refine ⟨Session.trace_iff, fun c reactions steps r hr => Session.level_of_mem_remarks hr,
    fun c reactions lapse text h => h.opens_iff, ?_, fun s words => showsNoRecord_run⟩
  intro s s' words words' h hlevel hlevel'
  obtain ⟨hout, hrequests, -, hending⟩ :=
    (ProgramReport.butErr_eq_iff _ _).1 (h.run_butErr hlevel hlevel')
  exact ⟨hout, hending, hrequests⟩

/-- A program whose daemon refuses to answer, in surroundings that bind the level. -/
def refused (level : String) : Situation where
  directory := "/p"
  surroundings := ⟨[("Side_Log_Level", level)], none⟩
  client? := none
  reactions := [.respond ⟨503, [], .empty⟩]

theorem levelIs_refused {bound option : String} {l : Level} {p : Level → Prop}
    (hoption : option ≠ "") (hl : Level.named? (upperCase option) = some l) (hp : p l) :
    (refused bound).LevelIs ["--log-level", option, "workspaces"] p := by
  rintro name ⟨hread, hload, hpicks⟩
  cases hread
  cases hpicks with
  | option htext =>
      cases htext
      exact ⟨l, hl, hp⟩
  | setting hempty => exact absurd (hempty option rfl) hoption

/-- The list is asked for in vain, which is remarked only for those who look for a fault. -/
theorem diagnostics_stand_apart_refused :
    Session.Trace ⟨"http://h", none⟩ [.respond ⟨503, [], .empty⟩, .fail ⟨"ReadTimeout", ""⟩]
      [.fetch, .resolve none]
      [⟨"sidekick.client", .debug, "Workspace fetch returned HTTP 503"⟩,
        ⟨"sidekick.client", .debug, "Workspace fetch failed: ReadTimeout('')"⟩] ∧
    (refused "info").SameButLevel ["--log-level", "debug", "workspaces"] (refused "trace")
      ["--log-level", "Error", "workspaces"] ∧
    (refused "info").LevelIs ["--log-level", "debug", "workspaces"] (fun _ => True) ∧
    (refused "trace").LevelIs ["--log-level", "Error", "workspaces"]
      (fun l => Level.warning.number ≤ l.number) ∧
    ((refused "trace").run ["--log-level", "Error", "workspaces"]).requests =
      ((refused "info").run ["--log-level", "debug", "workspaces"]).requests ∧
    (refused "trace").ShowsNoRecord
      ((refused "trace").run ["--log-level", "Error", "workspaces"]) := by
  obtain ⟨htrace, -, -, hsame, hcalm⟩ := diagnostics_stand_apart
  have hbut : (refused "info").SameButLevel ["--log-level", "debug", "workspaces"]
      (refused "trace") ["--log-level", "Error", "workspaces"] := by
    have hname : Settings.Means "Side_Log_Level" "log_level" := by decide
    have hsurroundings : (refused "info").surroundings.SameButLevel
        (refused "trace").surroundings :=
      Surroundings.sameButLevel_environment hname "info" "trace" [] rfl
    exact sameButLevel_option _ hsurroundings "debug" "Error" ["workspaces"]
  have hdebug : (refused "info").LevelIs ["--log-level", "debug", "workspaces"] (fun _ => True) :=
    levelIs_refused (by decide) (show Level.named? (upperCase "debug") = some .debug by
      decide) trivial
  have herror : ∀ p : Level → Prop, p .error →
      (refused "trace").LevelIs ["--log-level", "Error", "workspaces"] p := fun p hp =>
    levelIs_refused (by decide) (show Level.named? (upperCase "Error") = some .error by
      decide) hp
  obtain ⟨-, -, hrequests⟩ := hsame _ _ _ _ hbut hdebug (herror _ trivial)
  exact ⟨(htrace _ _ _ _).2 rfl, hbut, hdebug, herror _ (by decide), hrequests,
    hcalm _ _ (herror _ (by decide))⟩

end Situation

end WorkspaceWatch
