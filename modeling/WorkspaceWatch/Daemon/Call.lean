/-
**The calls of a client.**

Each call sends one order and draws its conclusion from what came back.  Reading the list of
workspaces never fails: every problem means that the daemon is unavailable, and is only noted.
All other calls fail with a message that says what went wrong.  No call leaves anything behind.

Main definitions:

* `WorkspaceWatch.Call`: an order with the conclusion drawn from its outcome;
* `WorkspaceWatch.Client.run`: a call made against a list of reactions;
* `WorkspaceWatch.Call.fetch`, `WorkspaceWatch.Call.createWorkspace` and the calls about tasks;
* `WorkspaceWatch.ApiError`: why a call fails.
-/

import WorkspaceWatch.Daemon.Exchange
import WorkspaceWatch.Logging.Level
import WorkspaceWatch.Model.Reply
import WorkspaceWatch.Model.Task
import WorkspaceWatch.Model.Workspace

set_option autoImplicit false

namespace WorkspaceWatch

/-- Why a call fails: there was no usable response, the daemon refused, perhaps with a reason, or
the body of a success could not be read. -/
inductive ApiError where
  | unsent (failure : SendFailure)
  | refused (status : Nat) (reason? : Option String)
  | unreadable (status : Nat) (what : String)
deriving DecidableEq, Repr

namespace ApiError

/-- The status of the response, if there was one. -/
def status? : ApiError → Option Nat
  | unsent _ => none
  | refused status _ => some status
  | unreadable status _ => some status

/-- What the message of an error says. -/
def message : ApiError → String
  | unsent f => f.message
  | refused _ (some reason) => reason
  | refused status none => "Unexpected error: " ++ toString status
  | unreadable _ what => "Daemon returned an unreadable " ++ what

end ApiError

/-- Why a call has no result: it failed, something went wrong that nobody looks out for, or the
daemon had no reaction left. -/
inductive CallError where
  | api (error : ApiError)
  | escaped (mishap : Mishap)
  | exhausted
deriving DecidableEq, Repr

/-- A diagnostic remark about a call: the list of workspaces could not be asked for, was answered
with another status than success, or could not be read, or no workspace in it is bound to a
project. -/
inductive Note where
  | fetchFailed (failure : SendFailure)
  | fetchStatus (status : Nat)
  | fetchUnreadable (rejection : Rejection)
  | noWorkspace (path : Option String) (count : Nat)
deriving DecidableEq, Repr

namespace Note

/-- How many issues a rejection has, in words. -/
def issueCount (n : Nat) : String :=
  toString n ++ (if n = 1 then " validation error" else " validation errors")

/-- What a note says, up to its first line end: one about a body that could not be read goes on with
a line or two for each of its issues. -/
def text : Note → String
  | fetchFailed f => "Workspace fetch failed: " ++ f.shown
  | fetchStatus status => "Workspace fetch returned HTTP " ++ toString status
  | fetchUnreadable r =>
    "Workspace response could not be decoded: " ++ issueCount r.issues.length ++ " for " ++ r.title
  | noWorkspace path count =>
    "No workspace bound to " ++ (match path with
      | some p => quoted p
      | none => "None") ++ " among " ++ toString count

/-- The logger that a note is written through. -/
def logger : Note → String
  | noWorkspace _ _ => "sidekick.resolver"
  | _ => "sidekick.client"

/-- The level of a note. -/
def level : Note → Level
  | fetchFailed _ => .debug
  | fetchStatus _ => .debug
  | fetchUnreadable _ => .debug
  | noWorkspace _ _ => .debug

end Note

/-- An order with the conclusion drawn from its outcome. -/
structure Call (α : Type) where
  /-- What is sent. -/
  order : Order
  /-- The conclusion, with the notes made on the way. -/
  conclude : Outcome → Except CallError α × List Note

/-- A call that was made. -/
structure Report (α : Type) where
  /-- The result. -/
  result : Except CallError α
  /-- The request, if one reached the daemon. -/
  request? : Option Request
  /-- The notes made. -/
  notes : List Note
  /-- The reactions that are left. -/
  rest : List Reaction

/-- A call whose result is taken on. -/
def Call.map {α β : Type} (f : α → β) (call : Call α) : Call β where
  order := call.order
  conclude o :=
    let (result, notes) := call.conclude o
    (result.map f, notes)

/-- A call made against a list of reactions. -/
def Client.run {α : Type} (c : Client) (call : Call α) (reactions : List Reaction) : Report α :=
  let e := c.exchange call.order reactions
  let (result, notes) := call.conclude e.outcome
  ⟨result, e.request?, notes, e.rest⟩

namespace Call

/-! ### Reading the list of workspaces -/

/-- What a response to the question for all workspaces says, or why it says nothing. -/
def listing (r : Response) : Except Note (List Workspace) :=
  if r.status = 200 then
    match Model.workspaceList.decode r.body with
    | .ok entries => .ok (List.map Workspace.ofEntry entries)
    | .error rejection => .error (.fetchUnreadable rejection)
  else .error (.fetchStatus r.status)

/-- All workspaces, or nothing if the daemon is unavailable. -/
def fetch : Call (Option (List Workspace)) where
  order := { method := .get, path := "/workspaces/" }
  conclude
    | .exhausted => (.error .exhausted, [])
    | .escaped m => (.error (.escaped m), [])
    | .failure f => (.ok none, [.fetchFailed f])
    | .response r =>
      match listing r with
      | .ok ws => (.ok (some ws), [])
      | .error note => (.ok none, [note])

/-! ### The other calls -/

/-- The reason a body gives for a refusal. -/
def refusalReason? (body : ByteArray) : Option String :=
  match (Model.entry .failure).decode body with
  | .ok e =>
    match Entry.row e with
    | .cons reason .nil => some reason.value
  | .error _ => none

/-- The conclusion of a call whose success is read from the response. -/
def concluding {α : Type} (read : Response → Except ApiError α) (o : Outcome) :
    Except CallError α × List Note :=
  match o with
  | .exhausted => (.error .exhausted, [])
  | .escaped m => (.error (.escaped m), [])
  | .failure f => (.error (.api (.unsent f)), [])
  | .response r =>
    if r.isSuccess then ((read r).mapError .api, [])
    else (.error (.api (.refused r.status (refusalReason? r.body))), [])

/-- What a body holds, or the error that names what it should have been. -/
def readable {α : Type} (what : String) (decode : ByteArray → Except Rejection α) (r : Response) :
    Except ApiError α :=
  (decode r.body).mapError fun _ => .unreadable r.status what

/-- The workspace in a response. -/
def readWorkspace (r : Response) : Except ApiError Workspace :=
  (readable "workspace" Reply.workspace.decode r).map fun s => Workspace.ofEntry s.entry

/-- The task in a response. -/
def readTask (r : Response) : Except ApiError Task :=
  (readable "task" Reply.task.decode r).map fun s => Task.ofEntry s.entry

/-- The tasks in a response. -/
def readTasks (r : Response) : Except ApiError (List Task) :=
  (readable "task list" Model.taskList.decode r).map (List.map Task.ofEntry)

/-- A workspace created for a directory. -/
def createWorkspace (w : WorkspaceCreate) : Call Workspace where
  order := { method := .post, path := "/workspaces", body? := some w.body }
  conclude := concluding readWorkspace

/-- The path of a workspace's tasks. -/
def tasksPath (workspaceId : String) : String :=
  "/workspaces/" ++ workspaceId ++ "/tasks"

/-- The path of a task. -/
def taskPath (workspaceId taskId : String) : String :=
  tasksPath workspaceId ++ "/" ++ taskId

/-- The query that asks for tasks in some states only; none for no states. -/
def statusQuery (statuses : List String) : Option (List Char) :=
  if statuses.isEmpty then none
  else some ("statuses=".toList ++ formEncode (",".intercalate statuses).toList)

/-- The tasks of a workspace, perhaps only those in some states. -/
def listTasks (workspaceId : String) (statuses : List String) : Call (List Task) where
  order := { method := .get, path := tasksPath workspaceId, query? := some (statusQuery statuses) }
  conclude := concluding readTasks

/-- A task created. -/
def createTask (workspaceId : String) (t : TaskRequest) : Call Task where
  order := { method := .post, path := tasksPath workspaceId, body? := some t.body }
  conclude := concluding readTask

/-- One task. -/
def getTask (workspaceId taskId : String) : Call Task where
  order := { method := .get, path := taskPath workspaceId taskId }
  conclude := concluding readTask

/-- A task changed. -/
def updateTask (workspaceId taskId : String) (t : TaskRequest) : Call Task where
  order := { method := .put, path := taskPath workspaceId taskId, body? := some t.body }
  conclude := concluding readTask

/-- A task removed. -/
def deleteTask (workspaceId taskId : String) : Call Unit where
  order := { method := .delete, path := taskPath workspaceId taskId }
  conclude := concluding fun _ => .ok ()

end Call

end WorkspaceWatch
