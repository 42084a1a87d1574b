/-
**Sessions.**

A session is a row of steps with one client: calls, and changes of the base URL between them.  Each
call finds the reactions that the calls before it left, and nothing else of them; what a call gives
back is kept in its report.

Main definitions:

* `WorkspaceWatch.Session.Step`, `WorkspaceWatch.Session.Answer`: what is done, and what comes back;
* `WorkspaceWatch.Session.report`: one step;
* `WorkspaceWatch.Session.run`: all steps of a session.

Main results:

* `WorkspaceWatch.Session.length_run`: every step has its report.
-/

import WorkspaceWatch.Status.Resolver

set_option autoImplicit false

namespace WorkspaceWatch

namespace Session

/-- What is done with a client. Workspaces are asked for, with or without a project to be found
among them; tasks are asked for, perhaps only those in some states; and the client is given another
base URL. -/
inductive Step where
  | fetch
  | resolve (path : Option String)
  | createWorkspace (workspace : WorkspaceCreate)
  | listTasks (workspaceId : String) (statuses : List String)
  | createTask (workspaceId : String) (task : TaskRequest)
  | getTask (workspaceId taskId : String)
  | updateTask (workspaceId taskId : String) (task : TaskRequest)
  | deleteTask (workspaceId taskId : String)
  | useBaseUrl (url : String)
deriving Repr

/-- What comes back from a step; workspaces come back if the daemon listed them. -/
inductive Answer where
  | listing (workspaces? : Option (List Workspace))
  | status (status : Status)
  | workspace (workspace : Workspace)
  | task (task : Task)
  | tasks (tasks : List Task)
  | nothing

/-- The call of a step, if it makes one. -/
def Step.call? : Step → Option (Call Answer)
  | fetch => some (Call.fetch.map .listing)
  | resolve path => some ((Call.resolve path).map .status)
  | createWorkspace w => some ((Call.createWorkspace w).map .workspace)
  | listTasks w statuses => some ((Call.listTasks w statuses).map .tasks)
  | createTask w t => some ((Call.createTask w t).map .task)
  | getTask w t => some ((Call.getTask w t).map .task)
  | updateTask w t task => some ((Call.updateTask w t task).map .task)
  | deleteTask w t => some ((Call.deleteTask w t).map fun _ => .nothing)
  | useBaseUrl _ => none

/-- The client after a step. -/
def clientAfter (c : Client) : Step → Client
  | .useBaseUrl url => { c with baseUrl := url }
  | _ => c

/-- One step made against a list of reactions. -/
def report (c : Client) (reactions : List Reaction) (step : Step) : Report Answer :=
  match step.call? with
  | some call => c.run call reactions
  | none => ⟨.ok .nothing, none, [], reactions⟩

/-- All steps of a session, one after another. -/
def run (c : Client) (reactions : List Reaction) : List Step → List (Report Answer)
  | [] => []
  | step :: steps =>
    let r := report c reactions step
    r :: run (clientAfter c step) r.rest steps

/-- Every step has its report. -/
@[simp] theorem length_run (c : Client) (reactions : List Reaction) (steps : List Step) :
    (run c reactions steps).length = steps.length := by
  induction steps generalizing c reactions with
  | nil => rfl
  | cons step steps ih => exact congrArg (· + 1) (ih _ _)

end Session

end WorkspaceWatch
