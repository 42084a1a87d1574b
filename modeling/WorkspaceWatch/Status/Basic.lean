/-
**The outcome of a status check.**

A check ends in one of three ways, and only a workspace that was found has an identifier.  The
outcome is shown through a template, one for each kind.

Main definitions:

* `WorkspaceWatch.Status`: the outcomes;
* `WorkspaceWatch.Status.ofEntry`: the outcome that an object on the wire stands for;
* `WorkspaceWatch.Status.render`: the outcome shown through given templates;
* `WorkspaceWatch.Status.text`: the outcome as it is shown by default.

Main results:

* `WorkspaceWatch.Status.breach?_eq_none`: every outcome satisfies the rule of its sheet.
-/

import WorkspaceWatch.Model.Sheet
import WorkspaceWatch.Template.Render

set_option autoImplicit false

namespace WorkspaceWatch

/-- The outcome of a status check: the daemon gave no usable answer, or a workspace is bound to the
project, or none is. -/
inductive Status where
  | unavailable
  | found (id : String)
  | noWorkspace
deriving DecidableEq, Repr

namespace Status

/-- The kind of an outcome. -/
def kind : Status → StatusKind
  | unavailable => .daemonUnavailable
  | found _ => .workspaceFound
  | noWorkspace => .noWorkspace

/-- The identifier of the workspace that was found. -/
def id? : Status → Option String
  | found id => some id
  | _ => none

/-- The outcome with a kind and an identifier, if they go together. -/
def ofParts? : StatusKind → Option String → Option Status
  | .daemonUnavailable, none => some unavailable
  | .workspaceFound, some id => some (found id)
  | .noWorkspace, none => some noWorkspace
  | _, _ => none

/-- Every outcome satisfies the rule of its sheet. -/
theorem breach?_eq_none (s : Status) : statusBreach? s.kind s.id? = none := by
  cases s <;> rfl

/-- A kind and an identifier go together exactly if the rule says so. -/
theorem ofParts?_isSome_iff (k : StatusKind) (id : Option String) :
    (ofParts? k id).isSome = true ↔ statusBreach? k id = none := by
  cases k <;> cases id <;> simp [ofParts?, statusBreach?]

/-- The outcome of a row that satisfies the rule. -/
def ofRow : (row : Row Sheet.status.fields) → Sheet.status.rule row = none → Status
  | .cons kind (.cons id .nil), h =>
    (ofParts? kind.value id.value).get ((ofParts?_isSome_iff _ _).2 h)

/-- The outcome that an entry stands for. -/
def ofEntry (e : Entry .status) : Status := ofRow e.val e.property

/-- The template of a kind that is used where no other is given. -/
def defaultTemplate : StatusKind → String
  | .daemonUnavailable => "Side is not running. Please run `side start`"
  | .workspaceFound => "Found workspace \x7bworkspace_id\x7d"
  | .noWorkspace => "No workspace set up yet"

/-- The outcome shown through templates by kind, the default ones standing in for those not
given. -/
def render (templates : StatusKind → Option String) (s : Status) :
    Except Template.TemplateError String :=
  Template.render [("workspace_id", s.id?.getD "")]
    ((templates s.kind).getD (defaultTemplate s.kind))

/-- The outcome as it is shown by default. -/
def text : Status → String
  | unavailable => "Side is not running. Please run `side start`"
  | found id => "Found workspace " ++ id
  | noWorkspace => "No workspace set up yet"

end Status

end WorkspaceWatch
