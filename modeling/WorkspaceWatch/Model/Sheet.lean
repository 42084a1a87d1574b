/-
**The objects on the wire.**

Six kinds of object with plain fields pass between the daemon and its clients.  Each is described
by a sheet: a title, its fields in order, whether it can be changed once read, and for a status a
rule that ties its two fields together.  An entry is a row that satisfies the rule of its sheet.

Main definitions:

* `WorkspaceWatch.Sheet`, `WorkspaceWatch.Sheet.fields`, `WorkspaceWatch.Sheet.rule`;
* `WorkspaceWatch.Entry`: the values of a sheet;
* `WorkspaceWatch.Entry.read`: an entry from a JSON value, or every issue.
-/

import WorkspaceWatch.Schema.Field

set_option autoImplicit false

namespace WorkspaceWatch

/-- The objects with plain fields: a workspace and a task as the daemon lists them, what is sent to
create or change one, the daemon's report of a failure, and the outcome of a status check. -/
inductive Sheet where
  | workspace
  | workspaceCreate
  | task
  | taskRequest
  | failure
  | status
deriving DecidableEq, Repr

/-- A required text. -/
def Field.text (name wire : String) : Field :=
  ⟨name, wire, .plain .text, none⟩

/-- A text that may be absent or `null`. -/
def Field.optionalText (name wire : String) : Field :=
  ⟨name, wire, .optional .text, some none⟩

/-- The flow of a task that names none. -/
def basicFlow : String := "basic_dev"

namespace Sheet

/-- The title in messages. -/
def title : Sheet → String
  | workspace => "WorkspaceRecord"
  | workspaceCreate => "WorkspaceCreate"
  | task => "Task"
  | taskRequest => "TaskRequest"
  | failure => "ErrorResponse"
  | status => "WorkspaceStatus"

/-- The fields in order. -/
def fields : Sheet → List Field
  | workspace => [
      .text "id" "id",
      .optionalText "name" "name",
      .optionalText "local_repo_dir" "localRepoDir",
      .optionalText "created" "created",
      .optionalText "updated" "updated"]
  | workspaceCreate => [
      .text "name" "name",
      .text "local_repo_dir" "localRepoDir"]
  | task => [
      .text "id" "id",
      .text "workspace_id" "workspaceId",
      ⟨"status", "status", .plain (.member .taskStatus), none⟩,
      ⟨"description", "description", .plain .text, some ""⟩,
      ⟨"agent_type", "agentType", .optional (.member .agentType), some none⟩,
      .optionalText "flow_type" "flowType",
      .optionalText "created_at" "createdAt",
      .optionalText "updated_at" "updatedAt"]
  | taskRequest => [
      .text "description" "description",
      ⟨"status", "status", .plain (.member .taskStatus), some TaskStatus.toDo⟩,
      ⟨"agent_type", "agentType", .plain (.member .agentType), some AgentType.llm⟩,
      ⟨"flow_type", "flowType", .plain .text, some basicFlow⟩]
  | failure => [.text "error" "error"]
  | status => [
      ⟨"kind", "kind", .plain (.member .statusKind), none⟩,
      .optionalText "workspace_id" "workspace_id"]

/-- Whether an object is fixed once it is read. -/
def isFixed : Sheet → Bool
  | workspace | task | status => true
  | workspaceCreate | taskRequest | failure => false

end Sheet

/-- The rule of a status: it has an identifier exactly if it found a workspace. -/
def statusBreach? (kind : StatusKind) (id : Option String) : Option Breach :=
  match kind, id with
  | .workspaceFound, none => some .identifierMissing
  | .workspaceFound, some _ => none
  | _, none => none
  | kind, some _ => some (.identifierUnwanted kind)

/-- The rule of a sheet over its whole row. -/
def Sheet.rule : (s : Sheet) → Row s.fields → Option Breach
  | .status, .cons kind (.cons id .nil) => statusBreach? kind.value id.value
  | .workspace, _ | .workspaceCreate, _ | .task, _ | .taskRequest, _ | .failure, _ => none

/-- The values of a sheet: the rows that satisfy its rule. -/
def Entry (s : Sheet) : Type :=
  { row : Row s.fields // s.rule row = none }

namespace Entry

/-- The row of an entry. -/
def row {s : Sheet} (e : Entry s) : Row s.fields := e.val

/-- The entry of an object's entries, or every issue: the rule is looked at once the fields are
right. -/
def ofEntries (s : Sheet) (entries : List (String × Json)) : Checked (Entry s) :=
  match Row.read s.fields entries with
  | .error issues => .error issues
  | .ok row =>
    match h : s.rule row with
    | none => .ok ⟨row, h⟩
    | some breach => .error [⟨[], .broken breach⟩]

/-- The entry of a JSON value, or every issue. -/
def read (s : Sheet) : Json → Checked (Entry s)
  | .object entries => ofEntries s entries
  | _ => .error [⟨[], .notObject s.title⟩]

/-- The object of an entry. -/
def dump {s : Sheet} (options : DumpOptions) (e : Entry s) : Json :=
  .object (e.row.dump options)

/-- Whether two entries hold the same values. -/
def sameValues {s : Sheet} (a b : Entry s) : Bool :=
  a.row.sameValues b.row

/-- The entries of the items of an array, or the issues of all of them; the first item stands at
the given position. -/
def readItems (s : Sheet) (position : Nat) : List Json → Checked (List (Entry s))
  | [] => .ok []
  | v :: rest =>
    (both ((read s v).within (.index position)) (readItems s (position + 1) rest)).map
      fun (entry, entries) => entry :: entries

end Entry

end WorkspaceWatch
