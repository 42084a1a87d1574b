/-
**Commands.**

A command that was read from the command line, with everything it needs to run.

Main definitions:

* `WorkspaceWatch.Command`: the commands with their values;
* `WorkspaceWatch.Command.ofGiven`: the command that options and arguments stand for.
-/

import WorkspaceWatch.CommandLine.Arguments
import WorkspaceWatch.Model.Task
import WorkspaceWatch.Settings.Basic

set_option autoImplicit false

namespace WorkspaceWatch

/-- A command with its values: what directory the project is in, whether the status is that of no
project at all, what states tasks are asked for. A watch pauses some seconds after each status but
the last, and never ends if its count is zero. -/
inductive Command where
  | status (path? : Option String) (noProject : Bool)
  | workspaces
  | init (path? name? : Option String)
  | watch (path? : Option String) (pause : Binary64) (count : Int)
  | tasks (path? : Option String) (statuses : List String)
  | taskAdd (path? : Option String) (request : TaskRequest)
  | taskDelete (path? : Option String) (taskId : String)
deriving Repr

namespace Command

/-- The task that options and arguments ask for. -/
def requestOf (g : Given) : TaskRequest where
  description := g.words.head?.getD ""
  status := ((g.value? "--status").bind (Enumeration.find? .taskStatus)).getD TaskStatus.toDo
  agentType := ((g.value? "--agent-type").bind (Enumeration.find? .agentType)).getD AgentType.llm
  flowType := (g.value? "--flow-type").getD basicFlow

/-- The pause between checks: the one that is asked for, or else that of the settings. -/
def pauseOf (g : Given) (settings : Settings) : Binary64 :=
  ((g.value? "--interval").bind decimalNumber?).getD settings.pollInterval

/-- The command that options and arguments stand for. -/
def ofGiven (settings : Settings) (v : Verb) (g : Given) : Command :=
  match v with
  | .status => .status g.words.head? (g.isOn "--no-project")
  | .workspaces => .workspaces
  | .init => .init g.words.head? (g.value? "--name")
  | .watch =>
    .watch g.words.head? (pauseOf g settings) (((g.value? "--count").bind wholeNumber?).getD 0)
  | .tasks => .tasks g.words.head? (g.values "--status")
  | .taskAdd => .taskAdd (g.value? "--path") (requestOf g)
  | .taskDelete => .taskDelete (g.value? "--path") (g.words.head?.getD "")

end Command

end WorkspaceWatch
