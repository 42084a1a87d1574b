/-
**Reading the command line.**

The words after a command are options and arguments.  An option may take its value from the same
word, behind an equals sign, or from the next word; two dashes end the options.  The program's own
options end at the first other word, those of a command may stand anywhere.  Values are looked at
in the order in which they were given, those of arguments last.

Main definitions:

* `WorkspaceWatch.UsageError`: why a command line cannot be read;
* `WorkspaceWatch.Given`: the options and arguments that were given;
* `WorkspaceWatch.Given.ofWords`: those of a row of words;
* `WorkspaceWatch.Given.check`: the first of them that cannot be used.
-/

import WorkspaceWatch.CommandLine.Suggestion
import WorkspaceWatch.CommandLine.Syntax
import WorkspaceWatch.Number.Reading
import WorkspaceWatch.Text.Quoted

set_option autoImplicit false

namespace WorkspaceWatch

/-- Why a command line cannot be read. An unknown option or command comes with the known ones that
may have been meant; a value may lack, be one too many, or not fit its option. -/
inductive UsageError where
  | noOption (name : String) (suggestions : List String)
  | noValue (name : String)
  | unwantedValue (name : String)
  | noCommand
  | unknownCommand (name : String) (suggestions : List String)
  | badValue (option : String) (kind : ValueKind) (value : String)
  | noArgument (name : String)
  | extraArguments (words : List String)
deriving DecidableEq, Repr

namespace UsageError

/-- A message with the names that may have been meant. -/
def withSuggestions (message : String) : List String → String
  | [] => message
  | [name] => message ++ " Did you mean " ++ quoted name ++ "?"
  | names => message ++ " (Did you mean one of: " ++ ", ".intercalate (names.map quoted) ++ "?)"

/-- What is wrong with a value. -/
def valueText (value : String) : ValueKind → String
  | .text => quoted value ++ " is not valid."
  | .whole => quoted value ++ " is not a valid integer."
  | .decimal => quoted value ++ " is not a valid float."
  | .oneOf words =>
    quoted value ++ " is not one of " ++ ", ".intercalate (words.map quoted) ++ "."

/-- What the message of an error says. -/
def message : UsageError → String
  | noOption name suggestions =>
    withSuggestions ("No such option " ++ quoted name ++ ".") suggestions
  | noValue name => "Option " ++ quoted name ++ " requires an argument."
  | unwantedValue name => "Option " ++ quoted name ++ " does not take a value."
  | noCommand => "Missing command."
  | unknownCommand name suggestions =>
    withSuggestions ("No such command " ++ quoted name ++ ".") suggestions
  | badValue option kind value =>
    "Invalid value for '" ++ option ++ "': " ++ valueText value kind
  | noArgument name => "Missing argument '" ++ name ++ "'."
  | extraArguments words =>
    (if words.length = 1 then "Got unexpected extra argument (" else
      "Got unexpected extra arguments (") ++ " ".intercalate words ++ ")"

/-- Whether the message stands without the lines on how the command is called. -/
def standsAlone : UsageError → Bool
  | noValue _ => true
  | unwantedValue _ => true
  | _ => false

end UsageError

/-- The options and arguments that were given. -/
structure Given where
  /-- The options in order, with their values; a switch has none. -/
  options : List (OptionSpec × Option String)
  /-- The other words. -/
  words : List String

namespace Given

/-- Whether a word is an option, and not only a dash. -/
def isOption (word : String) : Bool :=
  match word.toList with
  | '-' :: _ :: _ => true
  | _ => false

/-- The name in an option's word, and the value behind the equals sign. -/
def cutValue (word : String) : String × Option String :=
  match word.toList.dropWhile (· != '=') with
  | _ :: value => (.ofList (word.toList.takeWhile (· != '=')), some (.ofList value))
  | [] => (word, none)

/-- The error for a name that no option has; a name with one dash is taken for a row of letters,
the first of which is no option. -/
def unknownOption (c : CommandSpec) (word name : String) : UsageError :=
  match word.toList with
  | '-' :: '-' :: _ => .noOption name (Suggestion.closest (c.allOptions.map (·.name)) name)
  | a :: b :: _ => .noOption (.ofList [a, b]) []
  | _ => .noOption name []

/-- The options and arguments in a row of words.  `anywhere` says whether options may stand after
other words; `options` and `others` hold what was found so far, the last one first. -/
def scan (c : CommandSpec) (anywhere : Bool) (options : List (OptionSpec × Option String))
    (others : List String) : List String → Except UsageError Given
  | [] => .ok ⟨options.reverse, others.reverse⟩
  | word :: rest =>
    if word = "--" then .ok ⟨options.reverse, others.reverse ++ rest⟩
    else if isOption word then
      let (name, value?) := cutValue word
      match c.option? name with
      | none => .error (unknownOption c word name)
      | some o =>
        match o.kind?, value? with
        | none, some _ => .error (.unwantedValue name)
        | none, none => scan c anywhere ((o, none) :: options) others rest
        | some _, some value => scan c anywhere ((o, some value) :: options) others rest
        | some _, none =>
          match rest with
          | [] => .error (.noValue name)
          | value :: rest => scan c anywhere ((o, some value) :: options) others rest
    else if anywhere then scan c anywhere options (word :: others) rest
    else .ok ⟨options.reverse, others.reverse ++ word :: rest⟩

/-- The options and arguments of a command. -/
def ofWords (c : CommandSpec) (words : List String) : Except UsageError Given :=
  scan c true [] [] words

/-- The program's own options, with the words after them. -/
def ofProgramWords (words : List String) : Except UsageError Given :=
  scan programSpec false [] [] words

/-- Whether the help text is asked for. -/
def wantsHelp (g : Given) : Bool :=
  g.options.any (·.1.name == helpOption.name)

/-- The values of an option, in order. -/
def values (g : Given) (name : String) : List String :=
  g.options.filterMap fun (o, value?) => if o.name = name then value? else none

/-- The value of an option that counts: the last one. -/
def value? (g : Given) (name : String) : Option String :=
  (g.values name).getLast?

/-- Whether a switch is on. -/
def isOn (g : Given) (name : String) : Bool :=
  g.options.any (·.1.name == name)

/-- Whether a value fits its kind. -/
def fits (value : String) : ValueKind → Bool
  | .text => true
  | .whole => (wholeNumber? value).isSome
  | .decimal => (decimalNumber? value).isSome
  | .oneOf words => words.contains value

/-- The values of an option that are looked at. -/
def lookedAt (g : Given) (o : OptionSpec) : List String :=
  if o.repeatable then g.values o.name else (g.value? o.name).toList

/-- The first value of an option that does not fit. -/
def misfit? (g : Given) (o : OptionSpec) : Option UsageError :=
  match o.kind? with
  | none => none
  | some kind =>
    ((g.lookedAt o).find? fun value => !fits value kind).map fun value =>
      .badValue o.name kind value

/-- The first of the options and arguments that cannot be used. -/
def check (c : CommandSpec) (g : Given) : Option UsageError :=
  let misfits := (g.options.map (·.1)).eraseDups.filterMap g.misfit?
  let missing := match c.argument? with
    | some a => if a.required && g.words.isEmpty then [UsageError.noArgument a.name] else []
    | none => []
  let extra := match g.words.drop (if c.argument?.isSome then 1 else 0) with
    | [] => []
    | words => [UsageError.extraArguments words]
  (misfits ++ missing ++ extra).head?

end Given

end WorkspaceWatch
