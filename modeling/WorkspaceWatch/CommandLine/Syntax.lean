/-
**What can be said on the command line.**

The program has options of its own and seven commands, each with options and at most one argument.
They are described once; the help texts and the reading of the command line both follow the
description.

Main definitions:

* `WorkspaceWatch.OptionSpec`, `WorkspaceWatch.ArgumentSpec`, `WorkspaceWatch.CommandSpec`;
* `WorkspaceWatch.programSpec`: the program's own options;
* `WorkspaceWatch.Verb`: the commands, with `Verb.spec` to describe each.
-/

import WorkspaceWatch.Model.Sheet

set_option autoImplicit false

namespace WorkspaceWatch

/-- What value an option takes: any text, a whole number, a number, or one of some words. -/
inductive ValueKind where
  | text
  | whole
  | decimal
  | oneOf (words : List String)
deriving DecidableEq, Repr

/-- How the value stands in help texts. -/
def ValueKind.placeholder : ValueKind → String
  | text => "TEXT"
  | whole => "INTEGER"
  | decimal => "FLOAT"
  | oneOf words => "[" ++ "|".intercalate words ++ "]"

/-- An option. -/
structure OptionSpec where
  /-- The name, with its dashes. -/
  name : String
  /-- What value it takes; without one it is a switch. -/
  kind? : Option ValueKind
  /-- What it does. -/
  note : String
  /-- The value that stands in for a missing one, where the help text names it. -/
  standIn? : Option String := none
  /-- Whether each occurrence counts, and not only the last. -/
  repeatable : Bool := false
deriving DecidableEq, Repr

/-- The option that asks for the help text. -/
def helpOption : OptionSpec := ⟨"--help", none, "Show this message and exit.", none, false⟩

/-- An argument. -/
structure ArgumentSpec where
  /-- How it stands in help texts. -/
  name : String
  /-- Whether it must be there. -/
  required : Bool
deriving DecidableEq, Repr

/-- A command, or the program itself. -/
structure CommandSpec where
  /-- The words it is called with. -/
  path : List String
  /-- What it does. -/
  note : String
  /-- Its options, without the one for help. -/
  options : List OptionSpec
  /-- Its argument. -/
  argument? : Option ArgumentSpec := none
deriving DecidableEq, Repr

namespace CommandSpec

/-- All options. -/
def allOptions (c : CommandSpec) : List OptionSpec := c.options ++ [helpOption]

/-- The option with a given name. -/
def option? (c : CommandSpec) (name : String) : Option OptionSpec :=
  c.allOptions.find? (·.name == name)

/-- The words it is called with, as one text. -/
def title (c : CommandSpec) : String := " ".intercalate c.path

end CommandSpec

/-- The name of the program. -/
def programName : String := "sidekick"

/-- The program itself, with its own options. -/
def programSpec : CommandSpec where
  path := [programName]
  note := "Sidekick - check whether a project is a registered Side workspace."
  options := [
    ⟨"--base-url", some .text, "Daemon API root (default: from SIDE_BASE_URL).", none, false⟩,
    ⟨"--log-level", some .text, "Log level for stderr (default: from SIDE_LOG_LEVEL).", none,
      false⟩]

/-- The commands, in the order in which they are listed. -/
inductive Verb where
  | init
  | status
  | taskAdd
  | taskDelete
  | tasks
  | watch
  | workspaces
deriving DecidableEq, Repr

namespace Verb

/-- The commands in alphabetical order. -/
def all : List Verb := [init, status, taskAdd, taskDelete, tasks, watch, workspaces]

/-- The word that calls a command. -/
def word : Verb → String
  | init => "init"
  | status => "status"
  | taskAdd => "task-add"
  | taskDelete => "task-delete"
  | tasks => "tasks"
  | watch => "watch"
  | workspaces => "workspaces"

/-- The command that a word calls. -/
def named? (word : String) : Option Verb :=
  all.find? (·.word == word)

/-- What a command does. -/
def note : Verb → String
  | init => "Register PATH (default: current directory) as a workspace."
  | status => "Print the workspace status of PATH (default: current directory)."
  | taskAdd => "Create a task in the workspace bound to the project directory."
  | taskDelete => "Delete a task from the workspace bound to the project directory."
  | tasks => "List tasks of the workspace bound to PATH (default: current directory)."
  | watch => "Poll the workspace status of PATH and print it whenever it changes."
  | workspaces => "List the workspaces known to the daemon."

/-- The option that names the project's directory. -/
def pathOption : OptionSpec :=
  ⟨"--path", some .text, "Project directory (default: current directory).", none, false⟩

/-- The states a task can be in, as words. -/
def statusWords : List String := TaskStatus.all.map TaskStatus.text

/-- Those who can work on a task, as words. -/
def agentWords : List String := AgentType.all.map AgentType.text

/-- The options of a command. -/
def options : Verb → List OptionSpec
  | init => [⟨"--name", some .text, "Workspace name (default: directory name).", none, false⟩]
  | status => [⟨"--no-project", none, "Resolve with no project directory.", none, false⟩]
  | taskAdd => [
      pathOption,
      ⟨"--status", some (.oneOf statusWords), "", some TaskStatus.toDo.text, false⟩,
      ⟨"--agent-type", some (.oneOf agentWords), "", some AgentType.llm.text, false⟩,
      ⟨"--flow-type", some .text, "e.g. basic_dev, planned_dev.", some basicFlow, false⟩]
  | taskDelete => [pathOption]
  | tasks => [
      ⟨"--status", some (.oneOf statusWords), "Only tasks in this status (repeatable).", none,
        true⟩]
  | watch => [
      ⟨"--interval", some .decimal, "Seconds between checks (default: from SIDE_POLL_INTERVAL).",
        none, false⟩,
      ⟨"--count", some .whole, "Stop after this many checks (default: 0, run forever).", none,
        false⟩]
  | workspaces => []

/-- The argument of a command. -/
def argument? : Verb → Option ArgumentSpec
  | init | status | tasks | watch => some ⟨"PATH", false⟩
  | taskAdd => some ⟨"DESCRIPTION", true⟩
  | taskDelete => some ⟨"TASK_ID", true⟩
  | workspaces => none

/-- The description of a command. -/
def spec (v : Verb) : CommandSpec :=
  ⟨[programName, v.word], v.note, v.options, v.argument?⟩

end Verb

end WorkspaceWatch
