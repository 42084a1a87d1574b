/-
**What is wrong with a value.**

A value that does not fit its description is refused with a list of issues.  An issue says where
in the value it lies and what the fault is; the wording follows from the fault and from whether
the value came as text or was built in memory.

Main definitions:

* `WorkspaceWatch.Fault`: the faults;
* `WorkspaceWatch.Issue`: a fault with its place;
* `WorkspaceWatch.Rejection`: all issues of one value;
* `WorkspaceWatch.both`: two checks whose issues are collected.
-/

import WorkspaceWatch.Model.Enumeration

set_option autoImplicit false

namespace WorkspaceWatch

/-- One step on the way into a value: to the value of a key or a member of a choice of descriptions,
or to an item of an array. -/
inductive Place where
  | key (name : String)
  | index (position : Nat)
deriving DecidableEq, Repr

/-- A breach of the rule that concerns several fields together: a status that found a workspace has
no identifier, or one of another kind has one. -/
inductive Breach where
  | identifierMissing
  | identifierUnwanted (kind : StatusKind)
deriving DecidableEq, Repr

/-- What the text of a rule says. -/
def Breach.text : Breach → String
  | identifierMissing => "workspace_id is required for workspace_found"
  | identifierUnwanted kind => "workspace_id must be empty for " ++ kind.text

/-- Why a value is refused: the text is not JSON, a required key is absent, something else was
expected, a text that should hold a number does not, the name is not known, the value cannot be
changed, or the rule over several fields is broken. -/
inductive Fault where
  | notJson
  | missing
  | notText
  | notMember (expected : Enumeration)
  | notList
  | notObject (expected : String)
  | notNumber
  | unreadableNumber
  | unexpected
  | frozen
  | broken (rule : Breach)
deriving DecidableEq, Repr

/-- How a value reached its check: as JSON text, or in memory. -/
inductive Source where
  | text
  | value
deriving DecidableEq, Repr

namespace Fault

/-- The short name of a fault. -/
def code : Fault → String
  | notJson => "json_invalid"
  | missing => "missing"
  | notText => "string_type"
  | notMember _ => "enum"
  | notList => "list_type"
  | notObject _ => "model_type"
  | notNumber => "float_type"
  | unreadableNumber => "float_parsing"
  | unexpected => "extra_forbidden"
  | frozen => "frozen_instance"
  | broken _ => "value_error"

/-- The sentence about a fault; text that is not JSON has none here. -/
def sentence? (source : Source) : Fault → Option String
  | notJson => none
  | missing => some "Field required"
  | notText => some "Input should be a valid string"
  | notMember e => some ("Input should be " ++ e.expectation)
  | notList => some <| match source with
    | .text => "Input should be a valid array"
    | .value => "Input should be a valid list"
  | notObject expected => some <| match source with
    | .text => "Input should be an object"
    | .value => "Input should be a valid dictionary or instance of " ++ expected
  | notNumber => some "Input should be a valid number"
  | unreadableNumber => some "Input should be a valid number, unable to parse string as a number"
  | unexpected => some "Extra inputs are not permitted"
  | frozen => some "Instance is frozen"
  | broken rule => some ("Value error, " ++ rule.text)

end Fault

/-- A fault with its place in the value. -/
structure Issue where
  /-- The way to the fault, from the outside in. -/
  place : List Place
  /-- What is wrong there. -/
  fault : Fault
deriving DecidableEq, Repr

/-- The issue seen from one level further out. -/
def Issue.within (step : Place) (issue : Issue) : Issue :=
  { issue with place := step :: issue.place }

/-- All that is wrong with one value. -/
structure Rejection where
  /-- What the value was meant to be. -/
  title : String
  /-- How the value came. -/
  source : Source
  /-- What is wrong, in order. -/
  issues : List Issue
deriving DecidableEq, Repr

/-- The outcome of a check that collects issues. -/
abbrev Checked (α : Type) := Except (List Issue) α

/-- Two checks, both made, the issues of the first before those of the second. -/
def both {α β : Type} : Checked α → Checked β → Checked (α × β)
  | .ok a, .ok b => .ok (a, b)
  | .error xs, .ok _ => .error xs
  | .ok _, .error ys => .error ys
  | .error xs, .error ys => .error (xs ++ ys)

/-- A check whose issues are seen from one level further out. -/
def Checked.within {α : Type} (step : Place) : Checked α → Checked α
  | .ok a => .ok a
  | .error xs => .error (xs.map (·.within step))

end WorkspaceWatch
