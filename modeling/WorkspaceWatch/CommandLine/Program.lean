/-
**The program.**

The program reads the command line, loads its settings, sets diagnostics up, and runs one command.
The words are looked at from left to right: what is wrong with the program's own options comes
before an unknown command, and both before the settings are loaded; what is wrong with the options
of a command comes after that.  What is printed loses its escape sequences, unless it goes to a
terminal; errors and diagnostics are taken not to go to one.

Main definitions:

* `WorkspaceWatch.Situation`: what the program finds when it starts;
* `WorkspaceWatch.ProgramReport`: what it prints, asks and ends with;
* `WorkspaceWatch.Situation.run`: the program run with the words of a command line.
-/

import WorkspaceWatch.CommandLine.Action
import WorkspaceWatch.CommandLine.Help
import WorkspaceWatch.Logging.Diagnostics
import WorkspaceWatch.Settings.Basic
import WorkspaceWatch.Text.Terminal

set_option autoImplicit false

namespace WorkspaceWatch

/-- What the program finds when it starts. -/
structure Situation where
  /-- The current directory. -/
  directory : String
  /-- The environment and the settings file. -/
  surroundings : Surroundings
  /-- A client to use in place of one made from options and settings. -/
  client? : Option Client
  /-- What the daemon does. -/
  reactions : List Reaction
  /-- Whether what is printed goes to a terminal. -/
  onTerminal : Bool := false

/-- Why the program breaks off: its settings cannot be loaded, the level of diagnostics is not
known, something went wrong that nobody looks out for, or the daemon had no reaction left. -/
inductive Crash where
  | settings (rejection : Rejection)
  | level (name : String)
  | escaped (mishap : Mishap)
  | exhausted
deriving DecidableEq, Repr

/-- How the program ends: with an exit code, by breaking off, or never. -/
inductive ProgramEnd where
  | exit (code : Nat)
  | crash (crash : Crash)
  | endless
deriving DecidableEq, Repr

/-- What the program prints, asks and ends with. -/
structure ProgramReport where
  /-- What it prints. -/
  out : String := ""
  /-- What it prints as errors and diagnostics. -/
  err : String := ""
  /-- The requests that reached the daemon. -/
  requests : List Request := []
  /-- How long it waits between two checks, in seconds, if it repeats them. -/
  pause? : Option Binary64 := none
  /-- How it ends. -/
  ending : ProgramEnd

/-- A text as it is printed. -/
def printed (onTerminal : Bool) (s : String) : String :=
  if onTerminal then s else withoutEscapes s

namespace ProgramReport

/-- A report with something printed as diagnostics before it. -/
def afterErr (s : String) (r : ProgramReport) : ProgramReport :=
  { r with err := s ++ r.err }

/-- The help text of a command. -/
def help (c : CommandSpec) : ProgramReport :=
  { out := Help.text c, ending := .exit 0 }

/-- The message about a failure. -/
def errorLine (message : String) : String :=
  printed false ("Error: " ++ message) ++ "\n"

/-- The report on a command line that cannot be read. -/
def misuse (c : CommandSpec) (e : UsageError) : ProgramReport :=
  let hint := Help.usage c ++ "\nTry '" ++ c.title ++ " --help' for help.\n\n"
  { err := (if e.standsAlone then "" else hint) ++ errorLine e.message, ending := .exit 2 }

end ProgramReport

/-- Remarks as they are shown, one after another. -/
def Diagnostics.remarks (d : Diagnostics) : List Remark → String
  | [] => ""
  | r :: rest =>
    let (shown, d) := d.log r.logger r.level.number r.text []
    shown.toOption.getD "" ++ d.remarks rest

/-- An action as the program's report. -/
def Action.report (d : Diagnostics) (onTerminal : Bool) (a : Action) : ProgramReport :=
  let (err, ending) : String × ProgramEnd := match a.ending with
    | .done => ("", .exit 0)
    | .failed message => (ProgramReport.errorLine message, .exit 1)
    | .escaped m => ("", .crash (.escaped m))
    | .exhausted => ("", .crash .exhausted)
    | .endless => ("", .endless)
  { out := "".intercalate (a.lines.map fun line => printed onTerminal line ++ "\n"),
    err := d.remarks a.remarks ++ err, requests := a.requests, pause? := a.pause?, ending }

/-- What is printed about the lines of the settings file that cannot be read. -/
def Surroundings.warnings (s : Surroundings) : String :=
  match s.file? with
  | none => ""
  | some text =>
    "".intercalate ((SettingsFile.unreadableLines text).map fun line =>
      "python-dotenv could not parse statement starting at line " ++ toString line ++ "\n")

namespace Situation

/-- The client that options and settings ask for, unless one is there. -/
def client (s : Situation) (g : Given) (settings : Settings) : Client :=
  match s.client? with
  | some c => c
  | none => ⟨Command.orElse (g.value? "--base-url") settings.baseUrl, some settings.connectTimeout⟩

/-- A command run with words of its own. -/
def runVerb (s : Situation) (settings : Settings) (c : Client) (d : Diagnostics) (v : Verb)
    (words : List String) : ProgramReport :=
  match Given.ofWords v.spec words with
  | .error e => .misuse v.spec e
  | .ok g =>
    if g.wantsHelp then .help v.spec
    else
      match g.check v.spec with
      | some e => .misuse v.spec e
      | none => ((Command.ofGiven settings v g).run c s.directory s.reactions).report d s.onTerminal

/-- Settings loaded and diagnostics set up, and then a command run. -/
def start (s : Situation) (g : Given) (v : Verb) (words : List String) : ProgramReport :=
  ProgramReport.afterErr s.surroundings.warnings <|
    match Settings.load [] s.surroundings with
    | .error r => { ending := .crash (.settings r) }
    | .ok settings =>
      match Diagnostics.setup {} (Command.orElse (g.value? "--log-level") settings.logLevel) with
      | (.error name, _) => { ending := .crash (.level name) }
      | (.ok shown, d) => (s.runVerb settings (s.client g settings) d v words).afterErr shown

/-- The report on a word that calls no command. -/
def unknown (word : String) (rest : List String) : ProgramReport :=
  let report := ProgramReport.misuse programSpec
    (.unknownCommand word (Suggestion.closest (Verb.all.map (·.word)) word))
  if Given.isOption word then
    match Given.ofProgramWords (word :: rest) with
    | .error e => .misuse programSpec e
    | .ok g => if g.wantsHelp then .help programSpec else report
  else report

/-- The program run with the words of a command line. -/
def run (s : Situation) (words : List String) : ProgramReport :=
  if words.isEmpty then { err := Help.text programSpec, ending := .exit 2 }
  else
    match Given.ofProgramWords words with
    | .error e => .misuse programSpec e
    | .ok g =>
      if g.wantsHelp then .help programSpec
      else
        match g.words with
        | [] => .misuse programSpec .noCommand
        | word :: rest =>
          match Verb.named? word with
          | none => unknown word rest
          | some v => s.start g v rest

end Situation

end WorkspaceWatch
