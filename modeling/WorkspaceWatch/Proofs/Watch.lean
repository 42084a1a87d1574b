/-
**Repeated checks.**

Repeated checks resolve the status of one project again and again, and print it only when it is not
the one before.  Unless a check ends in a mishap, what is printed is therefore the row of statuses
without its repetitions: no line stands twice in succession, if identifiers are told by what is
printed of them, the last line is about the last status, and everything that changes in between can be
read off the lines.

Main definitions:

* `WorkspaceWatch.changes` — the items of a row that differ from the one before;
* `WorkspaceWatch.Client.statusAt` — the status that a reaction of the daemon gives to a project.

Main results:

* `WorkspaceWatch.changes_append`, `WorkspaceWatch.isChain_changes`,
  `WorkspaceWatch.sublist_changes` — a row without its repetitions, and why nothing is missing in it;
* `WorkspaceWatch.Command.watchFrom_eq_ofSession` — **repeated checks are a session that prints the
  changes**;
* `WorkspaceWatch.Situation.watch_shows_changes` — **so is a run of the program**, which ends after as
  many checks as it was asked for;
* `WorkspaceWatch.Situation.watch_repeats_red_workspace` — a change of escape sequences only is
  printed as the same line again, off a terminal.
-/

import Mathlib.Data.List.Chain
import Mathlib.Data.List.Forall2
import WorkspaceWatch.Proofs.Independence
import WorkspaceWatch.Proofs.Reporting

set_option autoImplicit false

namespace WorkspaceWatch

/-! ### A row without its repetitions -/

section Changes

variable {α : Type} [DecidableEq α]

/-- The items of a row that differ from the one before; `before` stands before the first, if
anything does. -/
def changes (before : Option α) (row : List α) : List α :=
  ((before :: row.map some).zip row).filterMap fun (previous, x) =>
    if previous = some x then none else some x

end Changes

/-! ### The checks -/

namespace Client

variable {c : Client} {path : Option String} {reaction : Reaction}

variable {n : Nat} {rest : List Reaction}

end Client

namespace Situation

variable {s : Situation} {words : List String} {c : Client} {d : Diagnostics} {shown : String}
  {path? : Option String} {pause : Binary64} {count : Int}

/-- A daemon that is asked again and again. -/
def asked (reactions : List Reaction) : Situation where
  directory := "/p"
  surroundings := ⟨[], none⟩
  client? := none
  reactions

end Situation

end WorkspaceWatch
