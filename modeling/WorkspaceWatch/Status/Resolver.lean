/-
**Resolving a project's status.**

The list of workspaces is asked for once, whatever the project.  Without a usable answer the daemon
is unavailable; otherwise the first workspace bound to the project's directory is the one that was
found.

Main definitions:

* `WorkspaceWatch.Status.ofListing`: the status of a project, given the list of workspaces;
* `WorkspaceWatch.Call.resolve`: the status of a project.
-/

import WorkspaceWatch.Daemon.Call
import WorkspaceWatch.Status.Basic

set_option autoImplicit false

namespace WorkspaceWatch

/-- The status of a project, given the list of workspaces if there is one. -/
def Status.ofListing (path : Option String) : Option (List Workspace) → Status
  | none => .unavailable
  | some ws =>
    match findByDirectory? ws path with
    | some w => .found w.id
    | none => .noWorkspace

/-- The remark made about a project that no workspace is bound to. -/
def Status.remarks (path : Option String) (listing : Option (List Workspace)) : List Note :=
  match listing with
  | none => []
  | some ws =>
    match findByDirectory? ws path with
    | some _ => []
    | none => [.noWorkspace path ws.length]

/-- The status of a project. -/
def Call.resolve (path : Option String) : Call Status where
  order := Call.fetch.order
  conclude o :=
    match Call.fetch.conclude o with
    | (.ok listing, notes) => (.ok (.ofListing path listing), notes ++ Status.remarks path listing)
    | (.error e, notes) => (.error e, notes)

end WorkspaceWatch
