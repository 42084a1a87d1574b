/-
**Status checks in the background.**

A check resolves a project's status away from its caller and hands it over: as its result, and to
a receiver if there is one.  A receiver may fail, at once or later, or return something that
cannot be waited for; then the check fails in the same way, but the status was delivered all the
same.

Main definitions:

* `WorkspaceWatch.Returned`, `WorkspaceWatch.Receiver`: what a receiver does with a status;
* `WorkspaceWatch.Receiver.accept`: what comes of handing a status to a receiver;
* `WorkspaceWatch.Client.check`: a check made against a list of reactions;
* `WorkspaceWatch.Client.checks`: checks made one after another.
-/

import WorkspaceWatch.Status.Resolver

set_option autoImplicit false

namespace WorkspaceWatch

/-- What a receiver returns: nothing, something to wait for, with what comes of the waiting, or a
value of some type, which cannot be waited for. -/
inductive Returned where
  | nothing
  | awaitable (outcome : Except Mishap Unit)
  | value (type : String)

/-- A receiver, by what it does with a status: it fails at once, or it returns. -/
abbrev Receiver := Status → Except Mishap Returned

/-- Why a check fails: the status could not be resolved, the receiver failed, at once or while it
was waited for, or what it returned cannot be waited for. -/
inductive CheckError where
  | call (error : CallError)
  | receiver (mishap : Mishap)
  | notAwaitable (type : String)
deriving DecidableEq, Repr

/-- What the message about a value that cannot be waited for says. -/
def CheckError.notAwaitableText (type : String) : String :=
  "object " ++ type ++ " can't be used in 'await' expression"

/-- What comes of waiting for what a receiver returned; for nothing there is no wait. -/
def Returned.await : Returned → Except CheckError Unit
  | nothing => .ok ()
  | awaitable outcome => outcome.mapError .receiver
  | value type => .error (.notAwaitable type)

/-- What comes of handing a status to a receiver. -/
def Receiver.accept (receiver : Receiver) (s : Status) : Except CheckError Unit :=
  match receiver s with
  | .ok returned => returned.await
  | .error mishap => .error (.receiver mishap)

/-- A check that was made. -/
structure CheckReport where
  /-- The status, or why there is none. -/
  result : Except CheckError Status
  /-- What the receiver was given. -/
  delivered : List Status
  /-- The request, if one reached the daemon. -/
  request? : Option Request
  /-- The notes made. -/
  notes : List Note
  /-- The reactions that are left. -/
  rest : List Reaction

/-- What a check makes of the report on its status, with or without a receiver. -/
def CheckReport.ofReport (receiver? : Option Receiver) (r : Report Status) : CheckReport :=
  match r.result with
  | .error e => ⟨.error (.call e), [], r.request?, r.notes, r.rest⟩
  | .ok s =>
    match receiver? with
    | none => ⟨.ok s, [], r.request?, r.notes, r.rest⟩
    | some receiver =>
      ⟨(receiver.accept s).map fun _ => s, [s], r.request?, r.notes, r.rest⟩

/-- A check made against a list of reactions. -/
def Client.check (c : Client) (path : Option String) (receiver? : Option Receiver)
    (reactions : List Reaction) : CheckReport :=
  .ofReport receiver? (c.run (Call.resolve path) reactions)

/-- Checks made one after another, each with its project and its receiver. -/
def Client.checks (c : Client) (reactions : List Reaction) :
    List (Option String × Option Receiver) → List CheckReport
  | [] => []
  | (path, receiver?) :: more =>
    let r := c.check path receiver? reactions
    r :: c.checks r.rest more

end WorkspaceWatch
