/-
**Settings.**

Four settings say how the daemon is reached.  Each comes, independently of the others, from the
first of these sources that has it: the arguments of the program, the environment, the settings
file, a fixed default.  The environment and the file name a setting with `SIDE_` in front, in any
letter case; the file may hold nothing else that has a value.

Main definitions:

* `WorkspaceWatch.Settings`: the settings;
* `WorkspaceWatch.Surroundings`: the environment and the settings file;
* `WorkspaceWatch.Settings.load`: the settings in given surroundings, or every issue.
-/

import WorkspaceWatch.Daemon.Exchange
import WorkspaceWatch.Schema.Issue
import WorkspaceWatch.Settings.SettingsFile
import WorkspaceWatch.Text.Casing

set_option autoImplicit false

namespace WorkspaceWatch

/-- The settings. -/
structure Settings where
  /-- The least level of diagnostics shown. -/
  logLevel : String := "WARNING"
  /-- Where the daemon is found. -/
  baseUrl : String := defaultBaseUrl
  /-- How long to wait for a connection, in seconds. -/
  connectTimeout : Binary64 := defaultConnectTimeout
  /-- How long to wait between two checks, in seconds. -/
  pollInterval : Binary64 := .ofInt 5
deriving DecidableEq, Repr

/-- What settings are read from besides arguments. -/
structure Surroundings where
  /-- The environment. -/
  environment : List (String × String)
  /-- The text of the settings file, if there is one. -/
  file? : Option String
deriving DecidableEq, Repr

namespace Surroundings

/-- The surroundings with a name bound in the environment. -/
def bind (s : Surroundings) (name value : String) : Surroundings :=
  { s with environment := Json.insert s.environment name value }

/-- The surroundings with a name no longer bound in the environment. -/
def unbind (s : Surroundings) (name : String) : Surroundings :=
  { s with environment := s.environment.filter (·.1 != name) }

/-- The bindings of the settings file. -/
def fileBindings (s : Surroundings) : List (String × Option String) :=
  match s.file? with
  | some text => SettingsFile.bindings s.environment text
  | none => []

end Surroundings

namespace Settings

/-- The names of the settings, in order. -/
def names : List String := ["log_level", "base_url", "connect_timeout", "poll_interval"]

/-- What stands before a setting's name outside of the program. -/
def outerMark : String := "side_"

/-- Bindings with their names in small letters; of names that become one, the last counts. -/
def inSmallLetters {α : Type} (bindings : List (String × α)) : List (String × α) :=
  Json.unique (bindings.map fun (name, value) => (lowerCase name, value))

/-- Arguments by the setting they name: by its very name, or else in another letter case. -/
def argument? (arguments : List (String × Json)) (name : String) : Option (String × Json) :=
  match arguments.lookup name with
  | some v => some (name, v)
  | none => arguments.find? fun entry => lowerCase entry.1 == name

/-- The value of a setting, from the first source that has it. -/
def source? (arguments : List (String × Json)) (environment : List (String × String))
    (file : List (String × Option String)) (name : String) : Option Json :=
  match argument? arguments name with
  | some (_, v) => some v
  | none =>
    match environment.lookup (outerMark ++ name) with
    | some v => some (.text v)
    | none => (file.lookup (outerMark ++ name)).bind fun v? => v?.map .text

/-- A text among the settings. -/
def readText : Json → Except Fault String
  | .text s => .ok s
  | _ => .error .notText

/-- A number among the settings; truth values count as zero and one. -/
def readNumber : Json → Except Fault Binary64
  | .text s =>
    match settingNumber? s with
    | some x => .ok x
    | none => .error .unreadableNumber
  | .float x => .ok x
  | .int n =>
    match Binary64.ofInt n with
    | .infinite _ => .error .notNumber
    | x => .ok x
  | .bool b => .ok (.ofInt (if b then 1 else 0))
  | _ => .error .notNumber

/-- One setting, its default standing in for a missing value. -/
def readField {α : Type} (look : String → Option Json) (name : String)
    (read : Json → Except Fault α) (standIn : α) : Checked α :=
  match look name with
  | none => .ok standIn
  | some v => (read v).mapError fun fault => [⟨[.key name], fault⟩]

/-- All settings, or every issue of theirs in order. -/
def readAll (look : String → Option Json) : Checked Settings :=
  let standard : Settings := {}
  let fields :=
    both (readField look "log_level" readText standard.logLevel)
      (both (readField look "base_url" readText standard.baseUrl)
        (both (readField look "connect_timeout" readNumber standard.connectTimeout)
          (readField look "poll_interval" readNumber standard.pollInterval)))
  fields.map fun (logLevel, baseUrl, connectTimeout, pollInterval) =>
    ⟨logLevel, baseUrl, connectTimeout, pollInterval⟩

/-- Whether a name is that of a setting, with or without the mark in front. -/
def isName (name : String) : Bool :=
  names.contains name || names.any (outerMark ++ · == name)

/-- Names in the settings file that have a value and mean no setting. -/
def strayNames (file : List (String × Option String)) : List String :=
  file.filterMap fun (name, value?) =>
    if (value?.getD "").isEmpty || isName name then none else some name

/-- Arguments that name no setting. -/
def strayArguments (arguments : List (String × Json)) : List String :=
  let used := names.filterMap fun name => (argument? arguments name).map (·.1)
  (arguments.map (·.1)).filter fun name => !used.contains name

/-- The issue of a name that means no setting. -/
def unexpected (name : String) : Issue := ⟨[.key name], .unexpected⟩

/-- Names that mean no setting are refused, each once. -/
def refuse (stray : List String) : Checked Unit :=
  match stray.eraseDups with
  | [] => .ok ()
  | names => .error (names.map unexpected)

/-- The settings in given surroundings, or every issue: those of the settings in order, then the
stray names. -/
def load (arguments : List (String × Json)) (s : Surroundings) : Except Rejection Settings :=
  let arguments := Json.unique arguments
  let file := inSmallLetters s.fileBindings
  let look := source? arguments (inSmallLetters s.environment) file
  match both (readAll look) (refuse (strayNames file ++ strayArguments arguments)) with
  | .error issues => .error ⟨"SideSettings", .value, issues⟩
  | .ok (settings, ()) => .ok settings

end Settings

end WorkspaceWatch
