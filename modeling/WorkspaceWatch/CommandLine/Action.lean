/-
**What commands do.**

A command asks the daemon once or twice and prints what it learned.  Commands about tasks first
look for the workspace bound to the project's directory, and go no further if there is none.  What
a command prints and asks does not depend on which diagnostics are shown.

Main definitions:

* `WorkspaceWatch.Action`: what running a command amounts to;
* `WorkspaceWatch.Command.run`: a command run against a list of reactions;
* `WorkspaceWatch.projectPath`: the directory that a command is about.
-/

import WorkspaceWatch.CommandLine.Command
import WorkspaceWatch.CommandLine.Path
import WorkspaceWatch.Status.Background

set_option autoImplicit false

namespace WorkspaceWatch

/-- A diagnostic record. -/
structure Remark where
  /-- The logger it goes through. -/
  logger : String
  /-- Its level. -/
  level : Level
  /-- What it says. -/
  text : String
deriving DecidableEq, Repr

/-- A note as a record. -/
def Note.remark (n : Note) : Remark := ⟨n.logger, n.level, n.text⟩

/-- How a command ends: it is done, it failed with a message, something went wrong that nobody looks
out for, the daemon had no reaction left, or it goes on for ever. -/
inductive ActionEnd where
  | done
  | failed (message : String)
  | escaped (mishap : Mishap)
  | exhausted
  | endless
deriving DecidableEq, Repr

/-- What running a command amounts to. -/
structure Action where
  /-- The lines printed. -/
  lines : List String := []
  /-- The requests that reached the daemon. -/
  requests : List Request := []
  /-- The diagnostic records. -/
  remarks : List Remark := []
  /-- How long it waits between two checks, in seconds, if it repeats them. -/
  pause? : Option Binary64 := none
  /-- How it ends. -/
  ending : ActionEnd := .done

namespace Action

/-- An action after a call that was made. -/
def after {α : Type} (r : Report α) (a : Action) : Action :=
  { a with
    requests := r.request?.toList ++ a.requests
    remarks := r.notes.map Note.remark ++ a.remarks }

/-- An action after a line was printed. -/
def afterLine (line : String) (a : Action) : Action :=
  { a with lines := line :: a.lines }

/-- A call made, with what follows from its result; a call that fails ends the action with its
message. -/
def call {α : Type} (c : Client) (call : Call α) (reactions : List Reaction)
    (next : α → List Reaction → Action) : Action :=
  let r := c.run call reactions
  after r <| match r.result with
    | .ok v => next v r.rest
    | .error (.api e) => { ending := .failed e.message }
    | .error (.escaped m) => { ending := .escaped m }
    | .error .exhausted => { ending := .exhausted }

end Action

/-- The directory that a command is about: the current one, or one that is named. -/
def projectPath (directory : String) (path? : Option String) : String :=
  match path? with
  | some path => Path.absolute directory path
  | none => directory

namespace Command

/-- The text that counts: an empty one counts as missing. -/
def orElse (text? : Option String) (standIn : String) : String :=
  match text? with
  | some "" => standIn
  | some text => text
  | none => standIn

/-- A workspace as a line. -/
def workspaceLine (w : Workspace) : String :=
  w.id ++ "\t" ++ w.name.getD "" ++ "\t" ++ w.directory.getD ""

/-- A task as a line. -/
def taskLine (t : Task) : String :=
  t.id ++ "\t" ++ t.status.text ++ "\t" ++ t.description

/-- What is done with the workspace bound to a directory; without one, the status is the message
of a failure. -/
def withWorkspace (c : Client) (path : String) (reactions : List Reaction)
    (next : String → List Reaction → Action) : Action :=
  Action.call c (Call.resolve (some path)) reactions fun s rest =>
    match s.id? with
    | some id => next id rest
    | none => { ending := .failed s.text }

/-- Checks repeated a number of times; a status is printed if it is not the one before.  `ending`
is how the checks end if nothing stops them before. -/
def watchFrom (c : Client) (path : String) (ending : ActionEnd) :
    Nat → Option Status → List Reaction → Action
  | 0, _, _ => { ending }
  | n + 1, previous, reactions =>
    Action.call c (Call.resolve (some path)) reactions fun s rest =>
      let more := watchFrom c path ending n (some s) rest
      if previous = some s then more else more.afterLine s.text

/-- The record made when repeated checks begin. -/
def loopRemark : Remark := ⟨"asyncio", .debug, "Using selector: EpollSelector"⟩

/-- Checks repeated a number of times: once if the number is negative, for ever if it is zero.
Those that go on for ever end when the daemon has no reaction left. -/
def watchAll (c : Client) (path : String) (pause : Binary64) (count : Int)
    (reactions : List Reaction) : Action :=
  let a :=
    if count = 0 then watchFrom c path .endless (reactions.length + 1) none reactions
    else watchFrom c path .done (max 1 count).toNat none reactions
  { a with remarks := loopRemark :: a.remarks, pause? := some pause }

/-- A command run in a current directory, against a list of reactions. -/
def run (c : Client) (directory : String) (reactions : List Reaction) : Command → Action
  | status path? noProject =>
    let path := if noProject then none else some (projectPath directory path?)
    Action.call c (Call.resolve path) reactions fun s _ => { lines := [s.text] }
  | workspaces =>
    Action.call c Call.fetch reactions fun
      | some ws, _ => { lines := ws.map workspaceLine }
      | none, _ => { ending := .failed Status.unavailable.text }
  | init path? name? =>
    let path := projectPath directory path?
    let create := Call.createWorkspace ⟨orElse name? (Path.baseName path), path⟩
    Action.call c create reactions fun w _ => { lines := [(Status.found w.id).text] }
  | watch path? pause count => watchAll c (projectPath directory path?) pause count reactions
  | tasks path? statuses =>
    withWorkspace c (projectPath directory path?) reactions fun id rest =>
      Action.call c (Call.listTasks id statuses) rest fun ts _ => { lines := ts.map taskLine }
  | taskAdd path? request =>
    withWorkspace c (projectPath directory path?) reactions fun id rest =>
      Action.call c (Call.createTask id request) rest fun t _ =>
        { lines := ["Created task " ++ t.id] }
  | taskDelete path? taskId =>
    withWorkspace c (projectPath directory path?) reactions fun id rest =>
      Action.call c (Call.deleteTask id taskId) rest fun _ _ =>
        { lines := ["Deleted task " ++ taskId] }

end Command

end WorkspaceWatch
